import Turtle.Proofs.BufferedRun
import Turtle.Proofs.Evaluation.Frames

/-
This file follows an evaluation on a recording forward: from what the parts of a statement come to,
each rule gives the result of the statement, the segments it draws and the number of calls it opens.
-/

namespace Turtle

def Event.isActivation : Event → Bool
  | .activated _ _ => true
  | .evaluating _ _ | .finished _ | .moved _ => false

/-- Each call that is opened activates its procedure once. -/
def activations (events : List Event) : Nat :=
  events.countP Event.isActivation

theorem activations_append (events more : List Event) :
    activations (events ++ more) = activations events + activations more :=
  List.countP_append

/-- On any recording the step comes to the result. It adds the segments to the recording, and opens
this many calls. -/
def Tallies (step : Progress → Outcome) (result : Except Failure State) (drawn : List Segment)
    (calls : Nat) : Prop :=
  ∀ (recorded : Array Segment) (events : Array Event), ∃ more : List Event,
    step ⟨.direct (.recording recorded), events⟩ =
      (result, ⟨.direct (.recording (recorded ++ drawn.toArray)), events ++ more.toArray⟩) ∧
    activations more = calls

namespace Tallies

variable {limits : Limits} {frames depth calls others : Nat} {state next : State}
  {result : Except Failure State} {drawn more : List Segment} {step : Progress → Outcome}

theorem still (result : Except Failure State) :
    Tallies (fun progress => (result, progress)) result [] 0 :=
  fun _ _ => ⟨[], by simp, rfl⟩

theorem record (event : Event) (tallies : Tallies step result drawn calls) :
    Tallies (fun progress => step (progress.record event)) result drawn
      (calls + activations [event]) := by
  intro recorded events
  obtain ⟨later, ended, counted⟩ := tallies recorded (events.push event)
  refine ⟨event :: later, by simpa [Progress.record] using ended, ?_⟩
  rw [← counted, Nat.add_comm]
  exact activations_append [event] later

theorem moveForward {pixels : Number} {finish : Point} (moved : state.advance pixels = .ok finish) :
    Tallies (Turtle.moveForward state pixels)
      (.ok { state with position := finish, terminated := false })
      [⟨state.position, finish⟩] 0 := by
  intro recorded events
  refine ⟨[.moved pixels], ?_, rfl⟩
  simp [Turtle.moveForward, moved, Progress.record, Canvas.draw, Surface.draw]

theorem finishCall (caller : State) (name : String) (node : Node)
    (tallies : Tallies step result drawn calls) :
    Tallies (fun progress => Turtle.finishCall caller name node (step progress))
      (callResult caller name node result) drawn calls := by
  intro recorded events
  obtain ⟨later, ended, counted⟩ := tallies recorded events
  refine ⟨later ++ [.finished name], by simp [Turtle.finishCall, ended, Progress.record], ?_⟩
  rw [activations_append, counted]
  rfl

/-- The last statement of a sequence runs as it does alone. -/
theorem last {run : Node → State → Progress → Outcome} {node : Node}
    (single : ∀ first second, node ≠ .seq first second)
    (tallies : Tallies (run node state) result drawn calls) :
    Tallies (Turtle.runSequence run node state) result drawn calls := by
  rw [runSequence_of_single single]
  exact tallies

/-- The second part of a sequence goes on where the first has ended without a stop. -/
theorem runSequence {run : Node → State → Progress → Outcome} {first second : Node}
    (front : Tallies (run first state) (.ok next) drawn calls) (running : next.terminated = false)
    (back : Tallies (Turtle.runSequence run second next) result more others) :
    Tallies (Turtle.runSequence run (.seq first second) state) result (drawn ++ more)
      (calls + others) := by
  intro recorded events
  obtain ⟨earlier, ended, counted⟩ := front recorded events
  obtain ⟨later, finished, further⟩ :=
    back (recorded ++ drawn.toArray) (events ++ earlier.toArray)
  refine ⟨earlier ++ later, ?_, ?_⟩
  · simp only [Turtle.runSequence, ended, running]
    simpa using finished
  · rw [activations_append, counted, further]

/-- A statement is recorded before it is evaluated, which opens no call. -/
theorem evaluate_of_rest {node : Node} (tallies : Tallies step result drawn calls)
    (same : ∀ progress, evaluate limits (frames + 1) depth node state progress =
      step (progress.record (.evaluating node state))) :
    Tallies (evaluate limits (frames + 1) depth node state) result drawn calls := by
  rw [funext same]
  exact tallies.record (.evaluating node state)

theorem define (name : String) (params : List String) (body : Node) :
    Tallies (evaluate limits (frames + 1) depth (.define name params body) state)
      (.ok (state.define name params body)) [] 0 :=
  evaluate_of_rest (still _) fun _ => rfl

theorem stop :
    Tallies (evaluate limits (frames + 1) depth .stop state)
      (.ok { state with terminated := true }) [] 0 :=
  evaluate_of_rest (still _) fun _ => rfl

theorem forward {pixels : Node} {value : Number} {finish : Point}
    (evaluated : evaluateExpression state.bindings frames pixels = .ok value)
    (moved : state.advance value = .ok finish) :
    Tallies (evaluate limits (frames + 1) depth (.forward pixels) state)
      (.ok { state with position := finish, terminated := false })
      [⟨state.position, finish⟩] 0 := by
  apply evaluate_of_rest (moveForward moved)
  intro progress
  rw [evaluate_forward_eq, evaluated, proceed]

theorem sequence {first second : Node}
    (tallies : Tallies (Turtle.runSequence (evaluate limits frames depth) (.seq first second) state)
      result drawn calls) :
    Tallies (evaluate limits (frames + 2) depth (.seq first second) state) result drawn calls :=
  evaluate_of_rest tallies fun _ => rfl

theorem skips {condition body : Node}
    (compared : evaluateComparison state.bindings frames condition = .ok false) :
    Tallies (evaluate limits (frames + 2) depth (.branch condition body) state)
      (.ok { state with terminated := false }) [] 0 := by
  apply evaluate_of_rest (still _)
  intro progress
  rw [evaluate_branch_eq, compared]
  rfl

theorem branches {condition body : Node}
    (compared : evaluateComparison state.bindings frames condition = .ok true)
    (tallies : Tallies (evaluate limits frames depth body state) result drawn calls) :
    Tallies (evaluate limits (frames + 2) depth (.branch condition body) state) result drawn
      calls := by
  apply evaluate_of_rest tallies
  intro progress
  rw [evaluate_branch_eq, compared]
  rfl

section Calls

variable {name : String} {args : List Node} {definition : Definition} {visible : Procedures}

/-- A call within the limit enters the body of its procedure. -/
theorem call {values : List Number}
    (found : state.procedures.find? name = some (definition, visible))
    (within : depth < limits.maxCallDepth)
    (evaluated : args.mapM (evaluateExpression state.bindings frames) = .ok values)
    (tallies : Tallies (evaluate limits frames (depth + 1) definition.body
      (state.enter definition visible values)) result drawn calls) :
    Tallies (evaluate limits (frames + 2) depth (.call name args) state)
      (callResult state name (.call name args) result) drawn (calls + 1) := by
  have prepared : prepareCall limits frames depth name args (.call name args) state =
      .ok (definition, state.enter definition visible values) := by
    rw [prepareCall, found]
    dsimp only
    rw [if_neg (by omega), evaluated]
    rfl
  have entered := (tallies.record (.activated name (depth + 1))).finishCall state name
    (.call name args)
  apply evaluate_of_rest entered
  intro progress
  rw [evaluate_call_eq, prepared]
  rfl

end Calls

/-- A step from a blank recording leaves what it draws and what it does. -/
theorem blank (tallies : Tallies step result drawn calls) :
    ∃ progress, step ⟨.blank, #[]⟩ = (result, progress) ∧ progress.canvas.segments = drawn ∧
      activations progress.events.toList = calls := by
  obtain ⟨events, ended, counted⟩ := tallies #[] #[]
  exact ⟨_, ended, by simp [Canvas.segments], by simpa using counted⟩

end Tallies

end Turtle
