import Turtle.Proofs.Drawing
import Turtle.Proofs.Evaluation.Lockstep
import Mathlib.Data.List.Forall2

/-
This file shows that the cursor has no say in what a program does. From two states that differ in
position and heading only, the same statements are evaluated, the same distances are drawn, and the
evaluations end alike.
-/

namespace Turtle

/-- The states differ in the position and in the heading at most. -/
structure State.Alike (state partner : State) : Prop where
  bindings : state.bindings = partner.bindings
  procedures : state.procedures = partner.procedures
  terminated : state.terminated = partner.terminated

/-- The events are the same, or start the same statement in states that are alike. -/
inductive Event.Alike : Event → Event → Prop
  | evaluating (node : Node) {state partner : State} (alike : state.Alike partner) :
      Alike (.evaluating node state) (.evaluating node partner)
  | same (event : Event) : Alike event event

/-- The distance of a move is what its operand evaluates to. -/
def Event.distance? : Event → Option Number
  | .moved pixels => some pixels
  | _ => none

theorem Event.Alike.trace_eq {event partner : Event} (alike : event.Alike partner) :
    event.trace = partner.trace := by
  cases alike <;> rfl

theorem Event.Alike.distance?_eq {event partner : Event} (alike : event.Alike partner) :
    event.distance? = partner.distance? := by
  cases alike <;> rfl

def Progress.distances (progress : Progress) : List Number :=
  progress.events.toList.filterMap Event.distance?

namespace Canvas

/-- The load of a canvas is the number of segments that were drawn on it or sent to it. -/
def load : Canvas → Nat
  | .direct surface => surface.size
  | .shared actor => actor.surface.size + actor.inbox.size

/-- A canvas that cannot draw and an actor that has stopped refuse every segment. -/
def refusal : Canvas → Option CanvasError
  | .direct .missing => some .unimplemented
  | .shared ⟨_, _, false⟩ => some .stopped
  | _ => none

theorem draw_of_refusal {canvas : Canvas} {error : CanvasError}
    (refuses : canvas.refusal = some error) (segment : Segment) :
    canvas.draw segment = (.error error, canvas) := by
  match canvas, refuses with
  | .direct .missing, rfl => rfl
  | .shared ⟨_, _, false⟩, rfl => rfl

/-- A canvas that does not refuse segments takes one more, and goes on to take them. -/
theorem draw_of_drawable {canvas : Canvas} {segment : Segment} (accepts : canvas.refusal = none)
    (drawable : segment.IsDrawable) :
    ∃ next, canvas.draw segment = (.ok (), next) ∧ next.refusal = none ∧
      next.load = canvas.load + 1 := by
  obtain ⟨line, written⟩ := drawable
  match canvas, accepts with
  | .direct (.recording segments), _ =>
      exact ⟨_, rfl, rfl, Array.size_push segment⟩
  | .direct (.svg page lines), _ =>
      refine ⟨.direct (.svg page (lines.push line)), ?_, rfl, Array.size_push line⟩
      simp [Canvas.draw, Surface.draw, written]
  | .shared ⟨surface, inbox, true⟩, _ =>
      refine ⟨_, rfl, rfl, ?_⟩
      simp [load, Nat.add_assoc]

end Canvas

/-- Two evaluations have done the same so far, wherever their cursors are. -/
structure Progress.Alike (progress other : Progress) : Prop where
  events : List.Forall₂ Event.Alike progress.events.toList other.events.toList
  load : progress.canvas.load = other.canvas.load
  refusal : progress.canvas.refusal = other.canvas.refusal

namespace Progress

variable {progress other : Progress}

theorem Alike.refl (progress : Progress) : progress.Alike progress :=
  ⟨List.forall₂_same.mpr fun event _ => .same event, rfl, rfl⟩

theorem Alike.record (alike : progress.Alike other) {event partner : Event}
    (same : event.Alike partner) : (progress.record event).Alike (other.record partner) := by
  refine ⟨?_, alike.load, alike.refusal⟩
  simp only [Progress.record, Array.toList_push]
  exact List.rel_append alike.events (.cons same .nil)

/-- What alike events have in common is the same along both evaluations. -/
theorem Alike.map_eq {α : Type} (alike : progress.Alike other) {view : Event → α}
    (common : ∀ {event partner : Event}, event.Alike partner → view event = view partner) :
    progress.events.toList.map view = other.events.toList.map view := by
  rw [← List.forall₂_eq_eq_eq]
  exact List.rel_map (@common) alike.events

theorem Alike.trace_eq (alike : progress.Alike other) : progress.trace = other.trace := by
  have traces := alike.map_eq Event.Alike.trace_eq
  simp only [Progress.trace, ← Array.foldl_toList, ← List.foldl_map, traces]

theorem Alike.distances_eq (alike : progress.Alike other) :
    progress.distances = other.distances := by
  have distances := congrArg (List.filterMap id) (alike.map_eq Event.Alike.distance?_eq)
  rwa [List.filterMap_map, List.filterMap_map] at distances

end Progress

def Failure.isArithmetic : Failure → Bool
  | .arithmetic _ => true
  | _ => false

/-- Two evaluations differ in their cursors only, until the arithmetic of one of them fails. -/
def Coupling.upToCursor : Coupling where
  states := State.Alike
  progress := Progress.Alike
  excusesFirst failure := failure.isArithmetic = true
  excusesSecond failure := failure.isArithmetic = true

namespace State.Alike

variable {state partner : State} (alike : state.Alike partner)

include alike

theorem define (name : String) (params : List String) (body : Node) :
    (state.define name params body).Alike (partner.define name params body) := by
  refine ⟨alike.bindings, ?_, alike.terminated⟩
  rw [State.define, State.define, alike.bindings, alike.procedures]

theorem turn_matches (degrees : Number) :
    Coupling.upToCursor.Matches State.Alike (turn state degrees) (turn partner degrees) := by
  rw [turn, turn]
  cases state.heading.add degrees with
  | error error => exact .firstExcused rfl _
  | ok heading =>
      cases partner.heading.add degrees with
      | error error => exact .secondExcused rfl _
      | ok other => exact .values ⟨alike.bindings, alike.procedures, alike.terminated⟩

/-- A move that has an end draws a segment wherever the cursor is, or the canvas refuses all. -/
theorem moveForward_steps (pixels : Number) :
    Coupling.upToCursor.Steps (moveForward state pixels) (moveForward partner pixels) := by
  intro earlier other along
  have recorded : (earlier.record (.moved pixels)).Alike (other.record (.moved pixels)) :=
    Progress.Alike.record along (.same _)
  rw [moveForward, moveForward]
  generalize earlier.record (.moved pixels) = before at recorded ⊢
  generalize other.record (.moved pixels) = behind at recorded ⊢
  cases moved : state.advance pixels with
  | error error => exact .firstExcused rfl _
  | ok finish =>
      cases movedOther : partner.advance pixels with
      | error error => exact .secondExcused rfl _
      | ok finishOther =>
          -- Both segments can be drawn, so that only the canvas as a whole may refuse them.
          dsimp only
          cases refused : behind.canvas.refusal with
          | some error =>
              rw [Canvas.draw_of_refusal (recorded.refusal.trans refused),
                Canvas.draw_of_refusal refused]
              exact .failures _ recorded
          | none =>
              obtain ⟨next, drawn, accepts, load⟩ := Canvas.draw_of_drawable
                (recorded.refusal.trans refused) (State.isDrawable_of_advance moved)
              obtain ⟨nextOther, drawnOther, acceptsOther, loadOther⟩ := Canvas.draw_of_drawable
                refused (State.isDrawable_of_advance movedOther)
              rw [drawn, drawnOther]
              refine .values ⟨alike.bindings, alike.procedures, rfl⟩ ⟨recorded.events, ?_, ?_⟩
              · rw [load, loadOther, recorded.load]
              · rw [accepts, acceptsOther]

theorem prepareCall_matches (limits : Limits) (frames depth : Nat) (name : String)
    (args : List Node) (node : Node) :
    Coupling.upToCursor.Matches Coupling.upToCursor.Enters
      (prepareCall limits frames depth name args node state)
      (prepareCall limits frames depth name args node partner) := by
  rw [prepareCall, prepareCall, alike.bindings, alike.procedures]
  split
  · exact .failures _
  · split
    · exact .failures _
    · exact .bind _ fun values => .values ⟨rfl, rfl, rfl, alike.terminated⟩

end State.Alike

theorem Coupling.upToCursor_keeps (limits : Limits) :
    Coupling.upToCursor.Keeps limits limits where
  patient := ⟨Bool.false_ne_true, Bool.false_ne_true⟩
  bindings alike := alike.bindings
  terminated alike := alike.terminated
  marks _ alike := ⟨alike.bindings, alike.procedures, rfl⟩
  heads _ alike := ⟨alike.bindings, alike.procedures, alike.terminated⟩
  defines name params body alike := alike.define name params body
  leaves caller called := ⟨caller.bindings, caller.procedures, called.terminated⟩
  starts node alike along := Progress.Alike.record along (.evaluating node alike)
  records event along := Progress.Alike.record along (.same event)
  turns degrees alike := alike.turn_matches degrees
  moves pixels alike := alike.moveForward_steps pixels
  counts _ _ := .refl (fun _ => rfl) _
  prepares frames depth name args node alike :=
    alike.prepareCall_matches limits frames depth name args node

/-- The cursor has no say in what a program does. Two evaluations of a statement start in states
that differ in position and heading only, and the arithmetic of neither fails. They evaluate the
same statements, so that their traces are the same, draw equally many segments of the same
distances, and end in states that are alike or in the same failure. -/
theorem evaluate_ignores_cursor {limits : Limits} {frames depth : Nat} {node : Node}
    {state partner : State} {progress after other : Progress}
    {result answer : Except Failure State} (alike : state.Alike partner)
    (ran : evaluate limits frames depth node state progress = (result, after))
    (ranOther : evaluate limits frames depth node partner progress = (answer, other))
    (finite : ∀ error, result ≠ .error (.arithmetic error))
    (finiteOther : ∀ error, answer ≠ .error (.arithmetic error)) :
    List.Forall₂ Event.Alike after.events.toList other.events.toList ∧
      after.trace = other.trace ∧ after.distances = other.distances ∧
      after.canvas.load = other.canvas.load ∧
      ((∃ final last, result = .ok final ∧ answer = .ok last ∧ final.Alike last) ∨
        ∃ failure, result = .error failure ∧ answer = .error failure) := by
  have ends := (Coupling.upToCursor_keeps limits).evaluate frames depth node alike
    progress progress (Progress.Alike.refl progress)
  rw [ran, ranOther] at ends
  cases ends with
  | @values final last _ _ together along =>
      exact ⟨along.events, along.trace_eq, along.distances_eq, along.load,
        .inl ⟨final, last, rfl, rfl, together⟩⟩
  | failures failure along =>
      exact ⟨along.events, along.trace_eq, along.distances_eq, along.load,
        .inr ⟨failure, rfl, rfl⟩⟩
  | @firstExcused failure _ excused _ =>
      cases failure with
      | arithmetic error => exact absurd rfl (finite error)
      | runtime _ | canvas _ | outOfFrames => cases excused
  | @secondExcused failure _ excused _ =>
      cases failure with
      | arithmetic error => exact absurd rfl (finiteOther error)
      | runtime _ | canvas _ | outOfFrames => cases excused

/-- The second round of this program is cut short by the stop in the procedure. -/
def stepsAndStops : Node :=
  .seq (.define "step" ["n"] (.seq (.forward (.var "n"))
      (.branch (.eq (.var "n") (.const (.whole 3))) .stop)))
    (.seq (.call "step" [.const (.whole 4)])
      (.loop (.const (.whole 2)) (.seq (.rotate (.const (.whole 45)))
        (.call "step" [.const (.whole 3)]))))

theorem evaluate_ignores_cursor_stepsAndStops :
    State.origin.Alike (.initial ⟨.whole 5, .whole (-7)⟩ (.whole 90)) ∧
      ∃ final last after other,
        evaluate {} 60 0 stepsAndStops .origin ⟨.blank, #[]⟩ = (.ok final, after) ∧
        evaluate {} 60 0 stepsAndStops (.initial ⟨.whole 5, .whole (-7)⟩ (.whole 90))
          ⟨.blank, #[]⟩ = (.ok last, other) ∧
        after.distances = [.whole 4, .whole 3] ∧ after.canvas.load = 2 ∧
        final.terminated = true ∧
        List.Forall₂ Event.Alike after.events.toList other.events.toList ∧
        after.trace = other.trace ∧ after.distances = other.distances ∧
        after.canvas.load = other.canvas.load ∧ final.Alike last := by
  have alike : State.origin.Alike (.initial ⟨.whole 5, .whole (-7)⟩ (.whole 90)) := ⟨rfl, rfl, rfl⟩
  obtain ⟨final, after, ran, drawn, load, stopped⟩ : ∃ final after,
      evaluate {} 60 0 stepsAndStops .origin ⟨.blank, #[]⟩ = (.ok final, after) ∧
      after.distances = [.whole 4, .whole 3] ∧ after.canvas.load = 2 ∧
      final.terminated = true := ⟨_, _, rfl, rfl, rfl, rfl⟩
  obtain ⟨last, other, ranOther⟩ : ∃ last other,
      evaluate {} 60 0 stepsAndStops (.initial ⟨.whole 5, .whole (-7)⟩ (.whole 90))
        ⟨.blank, #[]⟩ = (.ok last, other) := ⟨_, _, rfl⟩
  obtain ⟨events, trace, distances, loads, ends⟩ :=
    evaluate_ignores_cursor alike ran ranOther nofun nofun
  refine ⟨alike, final, last, after, other, ran, ranOther, drawn, load, stopped, events, trace,
    distances, loads, ?_⟩
  rcases ends with ⟨_, _, ⟨⟩, ⟨⟩, same⟩ | ⟨_, failed, -⟩
  · exact same
  · cases failed

end Turtle
