import Turtle.Proofs.Evaluation.Rules
import Turtle.Proofs.Procedures

/-
This file traces every closure back to the definition that made it: what a closure sees is what was
in force where its definition was evaluated, and itself.
-/

namespace Turtle

/-- Each statement starts in a state that fits the events before it. -/
def Throughout (fits : List Event → State → Prop) (earlier : List Event) : List Event → Prop
  | [] => True
  | .evaluating node state :: rest =>
      fits earlier state ∧ Throughout fits (earlier ++ [.evaluating node state]) rest
  | event :: rest => Throughout fits (earlier ++ [event]) rest

theorem throughout_append {fits : List Event → State → Prop} {earlier events more : List Event} :
    Throughout fits earlier (events ++ more) ↔
      Throughout fits earlier events ∧ Throughout fits (earlier ++ events) more := by
  induction events generalizing earlier with
  | nil => simp [Throughout]
  | cons event rest inductionHypothesis =>
      cases event <;>
        simp only [List.cons_append, Throughout, inductionHypothesis, List.append_assoc,
          List.nil_append, and_assoc]

/-- The closure was made under its name by a definition that was evaluated on the way. -/
def MadeIn (history : List Event) (name : String) (closure : Closure) : Prop :=
  ∃ params body origin, .evaluating (.define name params body) origin ∈ history ∧
    closure = origin.procedures.close ⟨name, params, body, origin.bindings⟩

/-- All closures that the state leads to were made on the way. -/
def AllMade (history : List Event) (state : State) : Prop :=
  state.procedures.Every (MadeIn history)

theorem AllMade.mono {history longer : List Event} {state : State}
    (made : AllMade history state) (included : history ⊆ longer) : AllMade longer state :=
  Procedures.Every.mono made fun _ _ ⟨params, body, origin, member, same⟩ =>
    ⟨params, body, origin, included member, same⟩

/-- An evaluation that starts with closures made earlier goes on with closures made by then. -/
theorem Evaluates.allMade {limits : Limits} {frames depth : Nat} {task : Task} {state : State}
    {events : List Event} {result : Except Failure State}
    (run : Evaluates limits frames depth task state events result) {earlier : List Event}
    (made : AllMade earlier state) :
    Throughout AllMade earlier events ∧
      ∀ final, result = .ok final → AllMade (earlier ++ events) final := by
  -- The history grows along the induction, so that each task starts with all that came before it.
  induction run generalizing earlier with
  | outOfFrames => exact ⟨trivial, fun _ ended => nomatch ended⟩
  | refuses _ => exact ⟨⟨made, trivial⟩, fun _ ended => nomatch ended⟩
  | blocked _ _ => exact ⟨⟨made, trivial⟩, fun _ ended => nomatch ended⟩
  | moves _ _ =>
      refine ⟨⟨made, trivial⟩, ?_⟩
      rintro final ⟨⟩
      exact made.mono (List.subset_append_left _ _)
  | rotates _ _ | heads _ | stops | skips _ =>
      refine ⟨⟨made, trivial⟩, ?_⟩
      rintro final ⟨⟩
      exact made.mono (List.subset_append_left _ _)
  | @defines _ _ name params body state =>
      refine ⟨⟨made, trivial⟩, ?_⟩
      rintro final ⟨⟩
      have kept := made.mono
        (List.subset_append_left earlier [.evaluating (.define name params body) state])
      exact Procedures.Every.define kept ⟨params, body, state, by simp, rfl⟩
  | sequence _ inductionHypothesis | repeats _ _ _ inductionHypothesis
  | branches _ _ inductionHypothesis =>
      obtain ⟨through, ends⟩ := inductionHypothesis (made.mono (List.subset_append_left _ _))
      refine ⟨⟨made, through⟩, fun final reached => ?_⟩
      simpa using ends final reached
  | @calls _ _ name args state _ _ events _ prepared _ inductionHypothesis =>
      obtain ⟨closure, values, found, -, -, -, rfl⟩ := prepareCall_ok prepared
      have entry : AllMade earlier (state.enter closure.definition closure.visible values) :=
        Procedures.Every.visible made found
      obtain ⟨through, -⟩ := inductionHypothesis (entry.mono (List.subset_append_left earlier
        [.evaluating (.call name args) state, .activated name _]))
      refine ⟨⟨made, ?_⟩, ?_⟩
      · change Throughout AllMade (earlier ++ [_] ++ [_]) (events ++ [.finished name])
        rw [throughout_append, List.append_assoc]
        exact ⟨through, trivial⟩
      · intro final returned
        obtain ⟨called, -, rfl⟩ := callResult_ok returned
        exact made.mono (List.subset_append_left _ _)
  | last _ _ inductionHypothesis => exact inductionHypothesis made
  | spineHalts _ _ inductionHypothesis | roundHalts _ _ inductionHypothesis =>
      exact inductionHypothesis made
  | spineGoesOn _ _ _ firstHypothesis restHypothesis
  | roundGoesOn _ _ _ firstHypothesis restHypothesis =>
      obtain ⟨through, ends⟩ := firstHypothesis made
      obtain ⟨onward, endsMore⟩ := restHypothesis (ends _ rfl)
      refine ⟨throughout_append.mpr ⟨through, onward⟩, fun final reached => ?_⟩
      simpa using endsMore final reached
  | done =>
      refine ⟨trivial, ?_⟩
      rintro final ⟨⟩
      simpa using made

/-- These states are reached from a state without procedures, with the history of events that led
there. Statements are evaluated one after another in any order, each within limits of its own, and a
state counts after a statement as well as at the start of every statement inside it. Between
statements the cursor, the bindings and the mark of a stop may be set anew. -/
inductive Reached : List Event → State → Prop
  | start {state : State} (empty : state.procedures = []) : Reached [] state
  | between {history : List Event} {state next : State} (reached : Reached history state)
      (same : next.procedures = state.procedures) : Reached history next
  | after {history : List Event} {state final : State} {limits : Limits} {frames depth : Nat}
      {node : Node} {canvas : Canvas} {progress : Progress} (reached : Reached history state)
      (ended : evaluate limits frames depth node state ⟨canvas, #[]⟩ = (.ok final, progress)) :
      Reached (history ++ progress.events.toList) final
  | during {history before later : List Event} {state found : State} {limits : Limits}
      {frames depth : Nat} {node inner : Node} {canvas : Canvas} {result : Except Failure State}
      {progress : Progress} (reached : Reached history state)
      (ran : evaluate limits frames depth node state ⟨canvas, #[]⟩ = (result, progress))
      (split : progress.events.toList = before ++ .evaluating inner found :: later) :
      Reached (history ++ before) found

/-- Every closure of a reached state was made on the way. -/
theorem Reached.allMade {history : List Event} {state : State} (reached : Reached history state) :
    AllMade history state := by
  induction reached with
  | start empty =>
      rw [AllMade, empty]
      exact .nil
  | between _ same inductionHypothesis => rwa [AllMade, same]
  | after _ ended inductionHypothesis =>
      obtain ⟨events, run, added⟩ := evaluates_of_evaluate ended
      rw [added]
      exact (run.allMade inductionHypothesis).2 _ rfl
  | during _ ran split inductionHypothesis =>
      obtain ⟨events, run, added⟩ := evaluates_of_evaluate ran
      obtain ⟨through, -⟩ := run.allMade inductionHypothesis
      rw [List.nil_append] at added
      rw [← added, split, throughout_append] at through
      exact through.2.1

/-- Closures keep what they saw. Whatever has been evaluated since there were no procedures, each
closure that a state leads to, directly or through what other closures see, is held under its own
name and goes back to a definition of that name in the history. It sees itself under this name, and
under every other name exactly what that name stood for where the definition was evaluated. -/
theorem reached_closure_sees_origin {history : List Event} {state : State} {name : String}
    {closure : Closure} (reached : Reached history state)
    (found : state.procedures.Reaches name closure) :
    ∃ params body origin, .evaluating (.define name params body) origin ∈ history ∧
      closure.definition = ⟨name, params, body, origin.bindings⟩ ∧
      closure.visible.lookup name = some closure ∧
      ∀ other, other ≠ name →
        closure.visible.lookup other = origin.procedures.lookup other := by
  obtain ⟨params, body, origin, member, rfl⟩ := reached.allMade name closure found
  refine ⟨params, body, origin, member, rfl, ?_, fun other different => ?_⟩
  · rw [Procedures.visible_close, Procedures.lookup_define, if_pos rfl]
  · rw [Procedures.visible_close, Procedures.lookup_define, if_neg different]

/-- This program defines a procedure anew after another one has seen it. -/
def definedTwice : Node :=
  .seq (.define "f" [] (.call "f" []))
    (.seq (.define "g" [] (.call "f" [])) (.define "f" [] .stop))

theorem reached_closure_sees_origin_definedTwice :
    ∃ history state closure,
      Reached history state ∧ state.procedures.Reaches "f" closure ∧
      (state.procedures.lookup "f").map (fun newest => newest.definition.body) = some .stop ∧
      closure.definition.body = .call "f" [] ∧ closure.visible.lookup "f" = some closure := by
  obtain ⟨state, progress, outer, closure, ended, bound, seen, newest, body⟩ :
      ∃ state progress outer closure,
        evaluate {} 20 0 definedTwice .origin ⟨.direct (.recording #[]), #[]⟩ =
          (.ok state, progress) ∧
        state.procedures.lookup "g" = some outer ∧ outer.visible.lookup "f" = some closure ∧
        (state.procedures.lookup "f").map (fun newest => newest.definition.body) = some .stop ∧
        closure.definition.body = .call "f" [] := ⟨_, _, _, _, rfl, rfl, rfl, rfl, rfl⟩
  have reached : Reached ([] ++ progress.events.toList) state := .after (.start rfl) ended
  have found : state.procedures.Reaches "f" closure := .seen (.bound bound) seen
  obtain ⟨-, -, -, -, -, itself, -⟩ := reached_closure_sees_origin reached found
  exact ⟨_, state, closure, reached, found, newest, body, itself⟩

end Turtle
