import Turtle.Proofs.Evaluation.Faults
import Turtle.Proofs.Procedures

/-
This file shows that scoping is sound: a program in which each call is of a name defined by then
never calls a name that stands for no procedure.
-/

namespace Turtle

namespace Node

/-- These names are known after a statement. What is defined in a repetition, in a branch or in a
body is not known outside of it. -/
def namesAfter : Node → List String → List String
  | .define name _ _, known => name :: known
  | .seq first second, known => second.namesAfter (first.namesAfter known)
  | _, known => known

/-- Each call is of a name that is known by then, and a body knows its own name. -/
def isScoped : Node → List String → Bool
  | .define name _ body, known => body.isScoped (name :: known)
  | .seq first second, known => first.isScoped known && second.isScoped (first.namesAfter known)
  | .loop _ body, known | .branch _ body, known => body.isScoped known
  | .call name _, known => known.contains name
  | _, _ => true

theorem subset_namesAfter (node : Node) (known : List String) : known ⊆ node.namesAfter known := by
  fun_induction namesAfter node known with
  | case1 name _ _ known => exact List.subset_cons_self name known
  | case2 first second known firstHypothesis secondHypothesis =>
      exact List.Subset.trans firstHypothesis secondHypothesis
  | case3 => exact List.Subset.refl _

end Node

namespace Task

def isScoped : Task → List String → Bool
  | .statement node, known | .spine node, known | .rounds _ node, known => node.isScoped known

/-- A task that may have no rounds makes no names known. -/
def namesAfter : Task → List String → List String
  | .statement node, known | .spine node, known => node.namesAfter known
  | .rounds _ _, known => known

end Task

/-- Every known name stands for a procedure. -/
def Procedures.Binds (procedures : Procedures) (known : List String) : Prop :=
  ∀ name ∈ known, procedures.lookup name ≠ none

theorem Procedures.Binds.mono {procedures : Procedures} {known fewer : List String}
    (binds : procedures.Binds known) (included : fewer ⊆ known) : procedures.Binds fewer :=
  fun name member => binds name (included member)

/-- A definition makes its name known beside those known before. -/
theorem Procedures.Binds.define {procedures : Procedures} {known : List String}
    (binds : procedures.Binds known) (definition : Definition) :
    (procedures.define definition).Binds (definition.name :: known) := by
  intro name member
  rw [Procedures.lookup_define]
  split
  · exact Option.some_ne_none _
  · next different =>
      rcases List.mem_cons.mp member with same | earlier
      · exact absurd same different
      · exact binds name earlier

/-- The body of the closure is scoped by names that the closure sees. -/
def Closure.IsScoped (closure : Closure) : Prop :=
  ∃ known, closure.visible.Binds known ∧ closure.definition.body.isScoped known = true

/-- Every closure that the procedures lead to is scoped. -/
def Procedures.AllScoped (procedures : Procedures) : Prop :=
  procedures.Every fun _ closure => closure.IsScoped

/-- A definition of a scoped body makes a scoped closure, which sees itself. -/
theorem Procedures.AllScoped.define {procedures : Procedures} {known : List String}
    {definition : Definition} (closures : procedures.AllScoped) (binds : procedures.Binds known)
    (body : definition.body.isScoped (definition.name :: known) = true) :
    (procedures.define definition).AllScoped := by
  refine Procedures.Every.define closures ⟨definition.name :: known, ?_, body⟩
  rw [Procedures.visible_close]
  exact binds.define definition

/-- A scoped task calls no missing procedure. It leaves scoped closures behind, and unless a stop is
pending the names that it makes known stand for procedures. -/
theorem Evaluates.inScope {limits : Limits} {frames depth : Nat} {task : Task} {state : State}
    {events : List Event} {result : Except Failure State} {known : List String}
    (run : Evaluates limits frames depth task state events result)
    (inScope : task.isScoped known = true) (binds : state.procedures.Binds known)
    (closures : state.procedures.AllScoped) :
    (∀ failure, result = .error failure → failure.isUndefined = false) ∧
      ∀ final, result = .ok final → final.procedures.AllScoped ∧
        (final.terminated = false → final.procedures.Binds (task.namesAfter known)) := by
  -- The known names vary along the induction: a body is scoped by what its closure sees.
  induction run generalizing known with
  | outOfFrames =>
      refine ⟨?_, fun _ ended => nomatch ended⟩
      rintro failure ⟨⟩
      rfl
  | refuses refused =>
      refine ⟨?_, fun _ ended => nomatch ended⟩
      rintro failure ⟨⟩
      rcases refused.spares with spares | ⟨name, args, rfl, absent, -⟩
      · exact spares.isUndefined
      · exact absurd absent (binds name (List.contains_iff_mem.mp inScope))
  | blocked _ failed =>
      refine ⟨?_, fun _ ended => nomatch ended⟩
      rintro failure ⟨⟩
      rcases failed with ⟨error, rfl⟩ | ⟨error, rfl⟩
      · rfl
      · rfl
  | moves _ _ | rotates _ _ | heads _ | stops | skips _ | done =>
      refine ⟨fun _ failed => (nomatch failed), ?_⟩
      rintro final ⟨⟩
      exact ⟨closures, fun _ => binds⟩
  | defines =>
      refine ⟨fun _ failed => (nomatch failed), ?_⟩
      rintro final ⟨⟩
      exact ⟨closures.define binds inScope, fun _ => binds.define _⟩
  | sequence _ inductionHypothesis | repeats _ _ _ inductionHypothesis
  | last _ _ inductionHypothesis =>
      exact inductionHypothesis inScope binds closures
  | branches _ _ inductionHypothesis =>
      obtain ⟨fails, ends⟩ := inductionHypothesis inScope binds closures
      refine ⟨fails, fun final reached => ?_⟩
      obtain ⟨kept, more⟩ := ends final reached
      exact ⟨kept, fun running => (more running).mono (Node.subset_namesAfter _ known)⟩
  | @calls _ _ name _ _ _ _ _ _ prepared _ inductionHypothesis =>
      obtain ⟨closure, values, found, -, -, rfl, rfl⟩ := prepareCall_ok prepared
      obtain ⟨seen, visible, body⟩ := closures name closure (.bound found)
      obtain ⟨fails, -⟩ :=
        inductionHypothesis body visible (Procedures.Every.visible closures found)
      constructor
      · intro failure failed
        obtain ⟨inner, cause, rfl⟩ := callResult_failed failed
        rw [Failure.isUndefined_inCall]
        exact fails inner cause
      · intro final returned
        obtain ⟨called, -, rfl⟩ := callResult_ok returned
        exact ⟨closures, fun _ => binds⟩
  | spineHalts _ halts inductionHypothesis =>
      obtain ⟨fails, ends⟩ := inductionHypothesis (Bool.and_eq_true_iff.mp inScope).1 binds closures
      refine ⟨fails, ?_⟩
      rintro final rfl
      exact ⟨(ends final rfl).1, fun running => absurd (running.symm.trans halts) (by simp)⟩
  | spineGoesOn _ running _ firstHypothesis restHypothesis =>
      obtain ⟨front, back⟩ := Bool.and_eq_true_iff.mp inScope
      obtain ⟨-, ends⟩ := firstHypothesis front binds closures
      obtain ⟨kept, more⟩ := ends _ rfl
      exact restHypothesis back (more running) kept
  | roundHalts _ halts inductionHypothesis =>
      obtain ⟨fails, ends⟩ := inductionHypothesis inScope binds closures
      refine ⟨fails, ?_⟩
      rintro final rfl
      exact ⟨(ends final rfl).1, fun running => absurd (running.symm.trans halts) (by simp)⟩
  | roundGoesOn _ running _ firstHypothesis restHypothesis =>
      obtain ⟨-, ends⟩ := firstHypothesis inScope binds closures
      obtain ⟨kept, more⟩ := ends _ rfl
      exact restHypothesis inScope ((more running).mono (Node.subset_namesAfter _ known)) kept

/-- Scoping is sound. A program whose calls are all of names known by then, evaluated without any
procedures at its start, never fails for a name that stands for no procedure, whatever the limits,
the frames, the bindings and the cursor are. -/
theorem scoped_never_undefined {limits : Limits} {frames depth : Nat} {node : Node} {state : State}
    {progress after : Progress} {result : Except Failure State}
    (inScope : node.isScoped [] = true) (empty : state.procedures = [])
    (ran : evaluate limits frames depth node state progress = (result, after))
    (name : String) (call : Node) :
    result ≠ .error (.runtime (.undefinedProcedure name call)) := by
  obtain ⟨events, run, -⟩ := evaluates_of_evaluate ran
  have binds : state.procedures.Binds [] := nofun
  have closures : state.procedures.AllScoped := by
    rw [empty]
    exact .nil
  intro failed
  have spared := (run.inScope inScope binds closures).1 _ failed
  cases spared

/-- The second procedure goes on to call the first one as it was, also after its name has got
another meaning. -/
def calledAnew : Node :=
  .seq (.define "count" ["n"] (.seq (.branch (.eq (.var "n") (.const (.whole 0))) .stop)
      (.call "count" [.sub (.var "n") (.const (.whole 1))])))
    (.seq (.define "twice" [] (.call "count" [.const (.whole 2)]))
      (.seq (.define "count" [] (.call "twice" [])) (.call "count" [])))

theorem scoped_never_undefined_calledAnew :
    calledAnew.isScoped [] = true ∧ State.origin.procedures = [] ∧
      ∃ result after,
        evaluate ⟨.atMost 0, 3⟩ 60 0 calledAnew .origin ⟨.direct (.recording #[]), #[]⟩ =
          (result, after) ∧
        result = .error (.runtime (.callDepth 3 "count"
          (.call "count" [.sub (.var "n") (.const (.whole 1))]))) ∧
        ∀ name call, result ≠ .error (.runtime (.undefinedProcedure name call)) := by
  have inScope : calledAnew.isScoped [] = true := by decide
  obtain ⟨result, after, ran, failed⟩ : ∃ result after,
      evaluate ⟨.atMost 0, 3⟩ 60 0 calledAnew .origin ⟨.direct (.recording #[]), #[]⟩ =
        (result, after) ∧
      result = .error (.runtime (.callDepth 3 "count"
        (.call "count" [.sub (.var "n") (.const (.whole 1))]))) := ⟨_, _, rfl, rfl⟩
  exact ⟨inScope, rfl, result, after, ran, failed, scoped_never_undefined inScope rfl ran⟩

end Turtle
