import Turtle.Proofs.Evaluation.Rules
import Turtle.Proofs.Procedures

/-
This file shows what an evaluation leaves alone: the bindings, and all procedures but those that the
statement defines itself.
-/

namespace Turtle

/-- These are the names that a statement may define where it stands; what is defined inside the body
of a definition does not count. -/
def Node.definedNames : Node → List String
  | .seq first second => first.definedNames ++ second.definedNames
  | .loop _ body | .branch _ body => body.definedNames
  | .define name _ _ => [name]
  | _ => []

def Task.definedNames : Task → List String
  | .statement node | .spine node | .rounds _ node => node.definedNames

/-- Between two states the bindings stay the same, no procedure is lost, and only the given names
may stand for other procedures than before. -/
structure Isolated (names : List String) (state final : State) : Prop where
  bindings : final.bindings = state.bindings
  bound : ∀ name, (state.procedures.lookup name).isSome → (final.procedures.lookup name).isSome
  procedures : ∀ name, name ∉ names →
    final.procedures.lookup name = state.procedures.lookup name

namespace Isolated

variable {names others : List String} {state middle final : State}

/-- A change of the cursor or of the mark of a stop is isolated. -/
theorem of_eq (bindings : final.bindings = state.bindings)
    (procedures : final.procedures = state.procedures) : Isolated names state final := by
  refine ⟨bindings, fun name found => ?_, fun name _ => ?_⟩
  · rwa [procedures]
  · rw [procedures]

theorem mono (isolated : Isolated names state final) (included : names ⊆ others) :
    Isolated others state final :=
  ⟨isolated.bindings, isolated.bound, fun name other =>
    isolated.procedures name fun member => other (included member)⟩

theorem trans (first : Isolated names state middle) (second : Isolated names middle final) :
    Isolated names state final := by
  refine ⟨second.bindings.trans first.bindings, fun name found => ?_, fun name other => ?_⟩
  · exact second.bound name (first.bound name found)
  · exact (second.procedures name other).trans (first.procedures name other)

theorem define (name : String) (params : List String) (body : Node) :
    Isolated [name] state (state.define name params body) := by
  refine ⟨rfl, fun other found => ?_, fun other different => ?_⟩
  · rw [State.define, Procedures.lookup_define]
    split
    · rfl
    · exact found
  · rw [State.define, Procedures.lookup_define, if_neg (by simpa using different)]

end Isolated

/-- A task that ends in a state is isolated up to the names that it defines. -/
theorem Evaluates.isolated {limits : Limits} {frames depth : Nat} {task : Task}
    {state final : State} {events : List Event} {result : Except Failure State}
    (run : Evaluates limits frames depth task state events result) (ended : result = .ok final) :
    Isolated task.definedNames state final := by
  induction run generalizing final with
  | outOfFrames | refuses _ | blocked _ _ => cases ended
  | moves _ _ | rotates _ _ | heads _ | stops | skips _ | done =>
      cases ended
      exact .of_eq rfl rfl
  | defines =>
      cases ended
      exact .define _ _ _
  | sequence _ inductionHypothesis | repeats _ _ _ inductionHypothesis
  | branches _ _ inductionHypothesis | last _ _ inductionHypothesis
  | roundHalts _ _ inductionHypothesis =>
      exact inductionHypothesis ended
  | calls _ _ _ =>
      obtain ⟨called, -, rfl⟩ := callResult_ok ended
      exact .of_eq rfl rfl
  | spineHalts _ _ inductionHypothesis =>
      exact (inductionHypothesis ended).mono (List.subset_append_left _ _)
  | spineGoesOn _ _ _ firstHypothesis restHypothesis =>
      refine .trans ((firstHypothesis rfl).mono ?_) ((restHypothesis ended).mono ?_)
      · exact List.subset_append_left _ _
      · exact List.subset_append_right _ _
  | roundGoesOn _ _ _ firstHypothesis restHypothesis =>
      exact (firstHypothesis rfl).trans (restHypothesis ended)

/-- Only the cursor and the mark of a stop come back from a call. -/
theorem Evaluates.call_restores {limits : Limits} {frames depth : Nat} {name : String}
    {args : List Node} {state final : State} {events : List Event}
    (run : Evaluates limits frames depth (.statement (.call name args)) state events (.ok final)) :
    final = { state with
      position := final.position, heading := final.heading, terminated := final.terminated } := by
  generalize ended : Except.ok final = result at run
  cases run with
  | outOfFrames | refuses _ => cases ended
  | calls _ _ =>
      obtain ⟨called, -, rfl⟩ := callResult_ok ended.symm
      rfl

/-- Bindings are isolated. When a statement ends in a state, this has the bindings it started with
and a procedure for every name that had one. Only the names that the statement defines outside the
bodies of its definitions may stand for other closures than before. A call gives back the state of
the caller, with nothing new but the cursor and the mark of a stop. -/
theorem evaluate_isolated {limits : Limits} {frames depth : Nat} {node : Node}
    {state final : State} {progress after : Progress}
    (ended : evaluate limits frames depth node state progress = (.ok final, after)) :
    final.bindings = state.bindings ∧
    (∀ name, (state.procedures.lookup name).isSome → (final.procedures.lookup name).isSome) ∧
    (∀ name, name ∉ node.definedNames →
      final.procedures.lookup name = state.procedures.lookup name) ∧
    (∀ name args, node = .call name args →
      final = { state with
        position := final.position
        heading := final.heading
        terminated := final.terminated }) := by
  obtain ⟨events, run, -⟩ := evaluates_of_evaluate ended
  have isolated := run.isolated rfl
  refine ⟨isolated.bindings, isolated.bound, isolated.procedures, ?_⟩
  rintro name args rfl
  exact run.call_restores

/-- This body defines a procedure before it turns the cursor. -/
def definesInside : Node :=
  .seq (.define "inner" [] .stop) (.rotate (.const (.whole 30)))

theorem evaluate_isolated_definesInside :
    ∃ final after,
      evaluate {} 20 0 (.call "outer" []) (State.origin.define "outer" [] definesInside)
        ⟨.direct (.recording #[]), #[]⟩ = (.ok final, after) ∧
      final.heading = .whole 30 ∧ final.bindings = [] ∧
      final.procedures.lookup "inner" = none ∧
      (final.procedures.lookup "outer").isSome := by
  obtain ⟨final, after, ended, heading⟩ : ∃ final after,
      evaluate {} 20 0 (.call "outer" []) (State.origin.define "outer" [] definesInside)
        ⟨.direct (.recording #[]), #[]⟩ = (.ok final, after) ∧ final.heading = .whole 30 :=
    ⟨_, _, rfl, rfl⟩
  obtain ⟨bindings, bound, others, -⟩ := evaluate_isolated ended
  exact ⟨final, after, ended, heading, bindings, others "inner" (by simp [Node.definedNames]),
    bound "outer" rfl⟩

end Turtle
