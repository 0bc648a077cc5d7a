import Turtle.Proofs.Evaluation.Isolation
import Turtle.Proofs.Evaluation.Origin
import Turtle.Proofs.Evaluation.Termination
import Turtle.Run

/-
This file says what a name reads as while the body of a procedure runs. The bindings stay the same
as long as the activation lasts, and a parameter without an argument reads as it did where the
procedure was defined.
-/

namespace Turtle

/-- A name that none of the pairs binds keeps its binding. -/
theorem Bindings.lookup_overlay_of_not_mem {bindings : Bindings} {pairs : List (String × Number)}
    {name : String} (absent : name ∉ pairs.map Prod.fst) :
    (bindings.overlay pairs).lookup name = bindings.lookup name := by
  rw [Bindings.overlay]
  induction pairs generalizing bindings with
  | nil => rfl
  | cons pair rest inductionHypothesis =>
      rw [List.map_cons, List.mem_cons, not_or] at absent
      obtain ⟨different, others⟩ := absent
      rw [List.foldl_cons, inductionHypothesis others, Table.lookup_insert, if_neg different]

/-- Arguments are given to the parameters from the first one on. -/
theorem map_fst_zip_eq_take {α β : Type} (params : List α) (values : List β) :
    (params.zip values).map Prod.fst = params.take values.length := by
  induction params generalizing values with
  | nil => simp
  | cons param rest inductionHypothesis =>
      cases values with
      | nil => rfl
      | cons value others => simp [inductionHypothesis others]

/-- The statements of one activation start with these bindings; those of the procedures that it
calls do not count. -/
def OwnBindings (bindings : Bindings) (events : List Event) : Prop :=
  ∀ before node state, before ++ [.evaluating node state] <+: events → openCalls before = 0 →
    state.bindings = bindings

namespace OwnBindings

variable {bindings : Bindings} {events more : List Event} {most : Nat}

theorem nil : OwnBindings bindings [] := by
  intro before node state start
  simp at start

theorem cons {event : Event} (own : OwnBindings bindings events) (neutral : event.opens = 0)
    (same : ∀ node state, event = .evaluating node state → state.bindings = bindings) :
    OwnBindings bindings (event :: events) := by
  intro before node state start level
  rcases List.prefix_cons_iff.mp start with empty | ⟨rest, cut, shorter⟩
  · simp at empty
  · cases before with
    | nil => exact same node state (List.cons.inj cut).1.symm
    | cons first before =>
        obtain ⟨rfl, rfl⟩ := List.cons.inj cut
        rw [openCalls_cons, neutral, Int.zero_add] at level
        exact own before node state shorter level

theorem start {node : Node} {state : State} (own : OwnBindings state.bindings events) :
    OwnBindings state.bindings (.evaluating node state :: events) := by
  apply own.cons rfl
  rintro _ _ ⟨⟩
  rfl

theorem moved (own : OwnBindings bindings events) (pixels : Number) :
    OwnBindings bindings (.moved pixels :: events) :=
  own.cons rfl nofun

theorem append (first : OwnBindings bindings events) (nested : Nested most events)
    (second : OwnBindings bindings more) : OwnBindings bindings (events ++ more) := by
  intro before node state start level
  rcases List.prefix_or_prefix_of_prefix start (List.prefix_append events more) with
    short | ⟨rest, longer⟩
  · exact first before node state short level
  · cases rest using List.reverseRecOn with
    | nil => exact first before node state (by rw [← longer, List.append_nil]) level
    | append_singleton rest event =>
        rw [← List.append_assoc] at longer
        obtain ⟨rfl, last⟩ := List.append_inj' longer rfl
        obtain ⟨rfl, -⟩ := List.cons.inj last
        rw [openCalls_append, nested.closed, Int.zero_add] at level
        rw [List.append_assoc, List.prefix_append_right_inj] at start
        exact second rest node state start level

/-- A call is left out as a whole. -/
theorem call (nested : Nested most events) (name : String) (depth : Nat) :
    OwnBindings bindings (.activated name depth :: (events ++ [.finished name])) := by
  intro before node state start level
  rcases List.prefix_cons_iff.mp start with empty | ⟨rest, cut, shorter⟩
  · simp at empty
  · cases before with
    | nil => cases cut
    | cons event before =>
        obtain ⟨rfl, rfl⟩ := List.cons.inj cut
        rcases List.prefix_concat_iff.mp shorter with whole | inside
        · cases (List.append_inj' whole rfl).2
        · have within := nested.bounded before ((List.prefix_append _ _).trans inside)
          rw [openCalls_cons, Event.opens] at level
          omega

end OwnBindings

/-- All statements of an activation start with the bindings that it was entered with. -/
theorem Evaluates.ownBindings {limits : Limits} {frames depth : Nat} {task : Task} {state : State}
    {events : List Event} {result : Except Failure State}
    (run : Evaluates limits frames depth task state events result) :
    OwnBindings state.bindings events := by
  induction run with
  | outOfFrames | done => exact .nil
  | refuses _ | rotates _ _ | heads _ | defines | stops | skips _ => exact OwnBindings.nil.start
  | moves _ _ | blocked _ _ => exact (OwnBindings.nil.moved _).start
  | sequence _ inductionHypothesis | repeats _ _ _ inductionHypothesis
  | branches _ _ inductionHypothesis =>
      exact inductionHypothesis.start
  | calls _ inner _ => exact (OwnBindings.call inner.nested _ _).start
  | last _ _ inductionHypothesis | spineHalts _ _ inductionHypothesis
  | roundHalts _ _ inductionHypothesis =>
      exact inductionHypothesis
  | spineGoesOn first _ _ firstHypothesis restHypothesis
  | roundGoesOn first _ _ firstHypothesis restHypothesis =>
      rw [(first.isolated rfl).bindings] at restHypothesis
      exact firstHypothesis.append first.nested restHypothesis

/-- A call that comes to its body enters the closure that its name stands for, and the body keeps
the bindings that it is entered with. -/
theorem Evaluates.call_enters {limits : Limits} {frames depth : Nat} {name : String}
    {args : List Node} {caller : State} {closure : Closure} {event : Event} {events : List Event}
    {result : Except Failure State} (found : caller.procedures.lookup name = some closure)
    (run : Evaluates limits frames depth (.statement (.call name args)) caller
      (.evaluating (.call name args) caller :: event :: events) result) :
    ∃ values inner, values.length = args.length ∧ events = inner ++ [.finished name] ∧
      OwnBindings (closure.definition.bindings.overlay (closure.definition.params.zip values))
        inner := by
  cases run with
  | @calls _ _ _ _ _ _ _ inner _ prepared body =>
      obtain ⟨entered, values, bound, -, evaluated, rfl, rfl⟩ := prepareCall_ok prepared
      cases found.symm.trans bound
      exact ⟨values, inner, Fallible.length_of_mapM evaluated, rfl, body.ownBindings⟩

/-- A name that gets no argument reads as it did where the procedure was defined. Whatever has been
evaluated since there were no procedures, the procedure of a call goes back to a definition in the
history. As long as the body of the call runs, a name that is not among the parameters with an
argument has the value that it had there, whatever it stands for at the call. In particular a
missing argument reads as zero where no such name was bound at the definition. -/
theorem missing_argument_reads_definition {history before later : List Event}
    {caller state : State} {name param : String} {args : List Node} {closure : Closure}
    {limits : Limits} {frames depth : Nat} {canvas : Canvas} {result : Except Failure State}
    {progress : Progress} {node : Node} (reached : Reached history caller)
    (found : caller.procedures.lookup name = some closure)
    (missing : param ∉ closure.definition.params.take args.length)
    (ran : evaluate limits frames depth (.call name args) caller ⟨canvas, #[]⟩ =
      (result, progress))
    (inside : progress.events.toList = .evaluating (.call name args) caller ::
      .activated name (depth + 1) :: (before ++ .evaluating node state :: later))
    (own : openCalls before = 0) :
    ∃ params body origin, .evaluating (.define name params body) origin ∈ history ∧
      closure.definition = ⟨name, params, body, origin.bindings⟩ ∧
      (∀ more, evaluateExpression state.bindings (more + 1) (.var param) =
        .ok (origin.bindings.read param)) ∧
      (origin.bindings.lookup param = none → state.bindings.read param = .whole 0) := by
  obtain ⟨params, body, origin, member, rfl⟩ := reached.allMade name closure (.bound found)
  obtain ⟨events, run, added⟩ := evaluates_of_evaluate ran
  rw [inside, List.nil_append] at added
  subst added
  obtain ⟨values, inner, count, closed, bindings⟩ := run.call_enters found
  have start : before ++ [.evaluating node state] <+: inner := by
    have whole : before ++ [.evaluating node state] <+: inner ++ [.finished name] :=
      ⟨later, by rw [← closed, List.append_assoc, List.singleton_append]⟩
    refine (List.prefix_concat_iff.mp whole).resolve_left fun same => ?_
    cases (List.append_inj' same rfl).2
  have read : state.bindings.lookup param = origin.bindings.lookup param := by
    rw [bindings before node state start own]
    apply Bindings.lookup_overlay_of_not_mem
    rwa [map_fst_zip_eq_take, count]
  refine ⟨params, body, origin, member, rfl, fun more => ?_, fun unbound => ?_⟩
  · rw [evaluateExpression, Bindings.read, Bindings.read, read]
  · rw [Bindings.read, read, unbound]
    rfl

/-- This procedure turns the cursor by its parameter. -/
def turnDefinition : Definition :=
  ⟨"turn", ["n"], .rotate (.var "n"), []⟩

/-- The procedure is called without an argument where the name of its parameter stands for seven. -/
theorem missing_argument_reads_definition_turn :
    ∃ history caller closure result progress node state later,
      Reached history caller ∧ caller.bindings.read "n" = .whole 7 ∧
      caller.procedures.lookup "turn" = some closure ∧ closure.definition = turnDefinition ∧
      evaluate {} 9 0 (.call "turn" []) caller ⟨.blank, #[]⟩ = (result, progress) ∧
      progress.events.toList = .evaluating (.call "turn" []) caller :: .activated "turn" 1 ::
        ([] ++ .evaluating node state :: later) ∧
      state.bindings.read "n" = .whole 0 := by
  let bind (state : State) : State := { state with bindings := [("n", .whole 7)] }
  obtain ⟨defined, before, closure, result, progress, node, state, later, ended, bound, definition,
      ran, inside⟩ :
      ∃ defined before closure result progress node state later,
        evaluate {} 9 0 (.define "turn" ["n"] (.rotate (.var "n"))) .origin ⟨.blank, #[]⟩ =
          (.ok defined, before) ∧
        defined.procedures.lookup "turn" = some closure ∧ closure.definition = turnDefinition ∧
        evaluate {} 9 0 (.call "turn" []) (bind defined) ⟨.blank, #[]⟩ = (result, progress) ∧
        progress.events.toList = .evaluating (.call "turn" []) (bind defined) ::
          .activated "turn" 1 :: ([] ++ .evaluating node state :: later) :=
    ⟨_, _, _, _, _, _, _, _, rfl, rfl, rfl, rfl, rfl⟩
  have reached : Reached ([] ++ before.events.toList) (bind defined) :=
    .between (.after (.start rfl) ended) rfl
  have missing : "n" ∉ closure.definition.params.take ([] : List Node).length := by simp
  obtain ⟨params, body, origin, -, same, -, zero⟩ :=
    missing_argument_reads_definition reached bound missing ran inside rfl
  have unbound : origin.bindings = [] := by
    rw [definition, turnDefinition] at same
    exact (Definition.mk.inj same).2.2.2.symm
  exact ⟨_, _, closure, result, progress, node, state, later, reached, rfl, bound, definition, ran,
    inside, zero (by rw [unbound]; rfl)⟩

/-- The inner procedure is called without an argument where its parameter is bound by the outer
one. -/
def boundOutside : Node :=
  .seq (.define "outer" ["x"]
      (.seq (.define "inner" ["x"] (.forward (.var "x"))) (.call "inner" [])))
    (.call "outer" [.const (.whole 5)])

/-- A missing argument reads as five where the definition stands in a procedure that binds its
name. -/
theorem missing_argument_reads_five :
    ∃ history caller closure result progress node state later,
      Reached history caller ∧ caller.procedures.lookup "inner" = some closure ∧
      closure.definition.params = ["x"] ∧
      evaluate {} 9 1 (.call "inner" []) caller ⟨.blank, #[]⟩ = (result, progress) ∧
      progress.events.toList = .evaluating (.call "inner" []) caller :: .activated "inner" 2 ::
        ([] ++ .evaluating node state :: later) ∧
      state.bindings.read "x" = .whole 5 := by
  obtain ⟨outcome, history, before, caller, after, ran, split, closure, result, progress, node,
      state, later, rest⟩ :
      ∃ outcome history before caller after,
        evaluate {} 20 0 boundOutside .origin ⟨.blank, #[]⟩ = (outcome, history) ∧
        history.events.toList = before ++ .evaluating (.call "inner" []) caller :: after ∧
        ∃ closure result progress node state later,
          caller.procedures.lookup "inner" = some closure ∧ closure.definition.params = ["x"] ∧
          evaluate {} 9 1 (.call "inner" []) caller ⟨.blank, #[]⟩ = (result, progress) ∧
          progress.events.toList = .evaluating (.call "inner" []) caller ::
            .activated "inner" 2 :: ([] ++ .evaluating node state :: later) ∧
          state.bindings.read "x" = .whole 5 :=
    ⟨_, _, [_, _, _, _, _, _], _, _, rfl, rfl, _, _, _, _, _, _, rfl, rfl, rfl, rfl, rfl⟩
  exact ⟨_, caller, closure, result, progress, node, state, later, .during (.start rfl) ran split,
    rest⟩

end Turtle
