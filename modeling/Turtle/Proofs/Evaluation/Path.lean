import Turtle.Proofs.Drawing
import Turtle.Proofs.Evaluation.Frames

/-
This file shows that the drawing of a program is one connected path: each segment starts where the
one before it ended, and the cursor stands at the end of the last one.
-/

namespace Turtle

/-- A path leads from one point to another. Each segment starts at the very point where the one
before it ended. -/
inductive Path : Point → List Segment → Point → Prop
  | stay (point : Point) : Path point [] point
  | step (segment : Segment) {others : List Segment} {finish : Point}
      (onward : Path segment.finish others finish) :
      Path segment.start (segment :: others) finish

theorem Path.append {start middle finish : Point} {first second : List Segment}
    (front : Path start first middle) (back : Path middle second finish) :
    Path start (first ++ second) finish := by
  induction front with
  | stay point => exact back
  | step segment _ inductionHypothesis => exact .step segment (inductionHypothesis back)

/-- A forward statement starts at the position of the cursor. -/
def Event.forwardStart? : Event → Option Point
  | .evaluating (.forward _) state => some state.position
  | _ => none

def forwardStarts (events : List Event) : List Point :=
  events.filterMap Event.forwardStart?

theorem forwardStarts_append (events more : List Event) :
    forwardStarts (events ++ more) = forwardStarts events ++ forwardStarts more :=
  List.filterMap_append

/-- The segments of a task form a path, one for each forward statement, and the path of a task that
returns ends at its cursor. A forward statement that fails is the last one and has no segment. -/
inductive Trail (start : Point) (drawn : List Segment) (events : List Event) :
    Except Failure State → Prop
  | returned {final : State} (path : Path start drawn final.position)
      (forwards : forwardStarts events = drawn.map Segment.start) :
      Trail start drawn events (.ok final)
  | raised {failure : Failure} {finish : Point} {failed : List Point}
      (path : Path start drawn finish)
      (forwards : forwardStarts events = drawn.map Segment.start ++ failed)
      (last : failed.length ≤ 1) : Trail start drawn events (.error failure)

namespace Trail

variable {start middle : Point} {drawn more : List Segment} {events others : List Event}
  {result : Except Failure State}

/-- A trail goes on from where a path has ended. -/
theorem prepend (path : Path start drawn middle)
    (forwards : forwardStarts events = drawn.map Segment.start)
    (trail : Trail middle more others result) :
    Trail start (drawn ++ more) (events ++ others) result := by
  cases trail with
  | returned onward further =>
      apply Trail.returned (path.append onward)
      rw [forwardStarts_append, forwards, further, List.map_append]
  | raised onward further last =>
      have all := congrArg (drawn.map Segment.start ++ ·) further
      apply Trail.raised (path.append onward) _ last
      rw [forwardStarts_append, forwards, List.map_append, List.append_assoc]
      exact all

/-- What is no forward statement may happen before the task. -/
theorem cons {event : Event} (still : event.forwardStart? = none)
    (trail : Trail start drawn events result) : Trail start drawn (event :: events) result := by
  have none : forwardStarts [event] = List.map Segment.start [] := by
    simp [forwardStarts, still]
  exact prepend (.stay start) none trail

/-- A call ends behind its body, and the caller takes over the cursor. -/
theorem finish (trail : Trail start drawn events result) (caller : State) (name : String)
    (node : Node) :
    Trail start drawn (events ++ [.finished name]) (callResult caller name node result) := by
  have same : forwardStarts (events ++ [.finished name]) = forwardStarts events := by
    simp [forwardStarts, Event.forwardStart?]
  cases trail with
  | returned path forwards => exact .returned path (same.trans forwards)
  | raised path forwards last =>
      rw [callResult_error]
      exact .raised path (same.trans forwards) last

end Trail

/-- Whatever its progress, the step adds a trail from the given point to the canvas and to the
events. -/
def Draws (start : Point) (step : Progress → Outcome) : Prop :=
  ∀ progress, ∃ drawn events,
    progress.canvas.replay drawn = (.ok (), (step progress).2.canvas) ∧
    (step progress).2.events.toList = progress.events.toList ++ events ∧
    Trail start drawn events (step progress).1

namespace Draws

variable {start : Point} {step : Progress → Outcome}

/-- A step that has its result at once leaves the cursor where it is. -/
theorem still {result : Except Failure State}
    (stays : ∀ final, result = .ok final → final.position = start) :
    Draws start fun progress => (result, progress) := by
  intro progress
  have trail : Trail start [] [] result := by
    cases result with
    | ok final =>
        have here := stays final rfl
        exact .returned (here ▸ .stay start) rfl
    | error failure => exact .raised (.stay start) rfl (Nat.zero_le 1)
  exact ⟨[], [], rfl, by simp, trail⟩

theorem record {event : Event} (draws : Draws start step) (other : event.forwardStart? = none) :
    Draws start fun progress => step (progress.record event) := by
  intro progress
  obtain ⟨drawn, events, replayed, added, trail⟩ := draws (progress.record event)
  have longer : (step (progress.record event)).2.events.toList =
      progress.events.toList ++ event :: events := by
    simpa [Progress.record] using added
  exact ⟨drawn, event :: events, replayed, longer, trail.cons other⟩

theorem proceed {α : Type} {next : α → Progress → Outcome} (first : Except Failure α)
    (draws : ∀ value, first = .ok value → Draws start (next value)) :
    Draws start (Turtle.proceed next first) := by
  cases first with
  | ok value => exact draws value rfl
  | error failure => exact .still nofun

theorem finishCall (draws : Draws start step) (caller : State) (name : String) (node : Node) :
    Draws start fun progress => Turtle.finishCall caller name node (step progress) := by
  intro progress
  obtain ⟨drawn, events, replayed, added, trail⟩ := draws progress
  have longer : (Turtle.finishCall caller name node (step progress)).2.events.toList =
      progress.events.toList ++ (events ++ [.finished name]) := by
    simp [Turtle.finishCall, Progress.record, added]
  exact ⟨drawn, events ++ [.finished name], replayed, longer, trail.finish caller name node⟩

/-- The next step draws on from the cursor that the first one returns. -/
theorem andThen {more : State → Progress → Outcome} (draws : Draws start step)
    (others : ∀ next, Draws next.position (more next)) :
    Draws start fun progress =>
      match step progress with
      | (.ok next, progress) =>
          if next.terminated then (.ok next, progress) else more next progress
      | (.error failure, progress) => (.error failure, progress) := by
  intro progress
  obtain ⟨drawn, events, replayed, added, trail⟩ := draws progress
  dsimp only
  generalize step progress = outcome at replayed added trail ⊢
  obtain ⟨result, middle⟩ := outcome
  cases trail with
  | raised path forwards last => exact ⟨drawn, events, replayed, added, .raised path forwards last⟩
  | @returned next path forwards =>
      dsimp only
      cases next.terminated with
      | true => exact ⟨drawn, events, replayed, added, .returned path forwards⟩
      | false =>
          obtain ⟨drawn', events', replayed', added', trail'⟩ := others next middle
          have all := (Canvas.replay_append replayed drawn').trans replayed'
          have longer : (more next middle).2.events.toList =
              progress.events.toList ++ (events ++ events') := by
            rw [added', added, List.append_assoc]
          exact ⟨drawn ++ drawn', events ++ events', all, longer, .prepend path forwards trail'⟩

end Draws

theorem runSequence_draws {step : Node → State → Progress → Outcome}
    (draws : ∀ node state, Draws state.position (step node state)) (node : Node)
    (state : State) : Draws state.position (runSequence step node state) := by
  fun_induction Node.flatten node generalizing state with
  | case1 first second _ secondHypothesis => exact (draws first state).andThen secondHypothesis
  | case2 node single =>
      rw [runSequence_of_single single]
      exact draws node state

theorem runLoop_draws {step : State → Progress → Outcome}
    (draws : ∀ state, Draws state.position (step state)) (count : Nat) (state : State) :
    Draws state.position (runLoop step count state) := by
  induction count generalizing state with
  | zero =>
      apply Draws.still
      rintro final ⟨⟩
      rfl
  | succ count inductionHypothesis => exact (draws state).andThen inductionHypothesis

/-- A move draws the segment that it passes over, or fails and draws nothing. -/
theorem moveForward_draws (pixels : Node) (state : State) (value : Number) :
    Draws state.position fun progress =>
      moveForward state value (progress.record (.evaluating (.forward pixels) state)) := by
  intro progress
  have started : forwardStarts [.evaluating (.forward pixels) state, .moved value] =
      [state.position] := rfl
  cases moved : state.advance value with
  | error error =>
      refine ⟨[], [.evaluating (.forward pixels) state, .moved value], ?_, ?_, ?_⟩
      · simp [moveForward, moved, Progress.record, Canvas.replay]
      · simp [moveForward, moved, Progress.record]
      · simp only [moveForward, moved]
        exact .raised (.stay state.position) started (Nat.le_refl 1)
  | ok finish =>
      rcases drawn : progress.canvas.draw ⟨state.position, finish⟩ with ⟨error | done, canvas⟩
      · have same : canvas = progress.canvas := Canvas.draw_refused drawn
        refine ⟨[], [.evaluating (.forward pixels) state, .moved value], ?_, ?_, ?_⟩
        · simp [moveForward, moved, Progress.record, drawn, Canvas.replay, same]
        · simp [moveForward, moved, Progress.record, drawn]
        · simp only [moveForward, moved, Progress.record, drawn]
          exact .raised (.stay state.position) started (Nat.le_refl 1)
      · refine ⟨[⟨state.position, finish⟩],
          [.evaluating (.forward pixels) state, .moved value], ?_, ?_, ?_⟩
        · simp [moveForward, moved, Progress.record, drawn, Canvas.replay]
        · simp [moveForward, moved, Progress.record, drawn]
        · simp only [moveForward, moved, Progress.record, drawn]
          exact .returned (.step ⟨state.position, finish⟩ (.stay finish)) started

/-- A forward statement whose operand has no value draws nothing. -/
theorem forward_draws (pixels : Node) (state : State) (operand : Except Failure Number) :
    Draws state.position fun progress =>
      proceed (moveForward state) operand
        (progress.record (.evaluating (.forward pixels) state)) := by
  cases operand with
  | ok value => exact moveForward_draws pixels state value
  | error failure =>
      intro progress
      have added : (progress.record (.evaluating (.forward pixels) state)).events.toList =
          progress.events.toList ++ [.evaluating (.forward pixels) state] := by
        simp [Progress.record]
      exact ⟨[], _, rfl, added, .raised (.stay state.position) rfl (Nat.le_refl 1)⟩

section

variable {limits : Limits} {frames depth : Nat}

/-- A statement other than a forward statement draws what its parts draw. -/
theorem evaluate_draws_of_rest {node : Node} {state : State} {rest : Progress → Outcome}
    (draws : Draws state.position rest)
    (other : (Event.evaluating node state).forwardStart? = none)
    (same : ∀ progress, evaluate limits (frames + 1) depth node state progress =
      rest (progress.record (.evaluating node state))) :
    Draws state.position (evaluate limits (frames + 1) depth node state) := by
  rw [funext same]
  exact draws.record other

/-- A statement draws a trail when all statements do within fewer frames. -/
theorem evaluate_draws_step
    (inner : ∀ smaller < frames, ∀ depth node state,
      Draws state.position (evaluate limits smaller depth node state))
    (node : Node) (state : State) :
    Draws state.position (evaluate limits (frames + 1) depth node state) := by
  have fails : ∀ failure, Draws state.position fun progress => (.error failure, progress) :=
    fun failure => .still nofun
  cases node with
  | forward pixels =>
      rw [funext evaluate_forward_eq]
      exact forward_draws pixels state _
  | rotate degrees =>
      refine evaluate_draws_of_rest (.still ?_) rfl fun _ => rfl
      intro final turned
      obtain ⟨value, -, more⟩ := Fallible.bind_eq_ok_iff.mp turned
      obtain ⟨heading, -, same⟩ := Fallible.bind_eq_ok_iff.mp more
      cases same
      rfl
  | setHeading degrees =>
      refine evaluate_draws_of_rest (.still ?_) rfl fun _ => rfl
      intro final headed
      cases evaluated : evaluateExpression state.bindings frames degrees with
      | ok value =>
          rw [evaluated] at headed
          cases headed
          rfl
      | error failure =>
          rw [evaluated] at headed
          cases headed
  | define name params body | stop =>
      refine evaluate_draws_of_rest (.still ?_) rfl fun _ => rfl
      rintro final ⟨⟩
      rfl
  | const value | var name | sub left right | div left right | eq left right =>
      exact evaluate_draws_of_rest (fails _) rfl fun _ => rfl
  | seq first second =>
      cases frames with
      | zero => exact evaluate_draws_of_rest (fails .outOfFrames) rfl fun _ => rfl
      | succ frames =>
          have spine := runSequence_draws (inner frames (by omega) depth) (.seq first second) state
          exact evaluate_draws_of_rest spine rfl fun _ => rfl
  | loop times body =>
      cases frames with
      | zero => exact evaluate_draws_of_rest (fails .outOfFrames) rfl fun _ => rfl
      | succ frames =>
          have rounds := runLoop_draws (inner frames (by omega) depth body)
          exact evaluate_draws_of_rest (.proceed _ fun count _ => rounds count state) rfl
            evaluate_loop_eq
  | branch condition body =>
      cases frames with
      | zero => exact evaluate_draws_of_rest (fails .outOfFrames) rfl fun _ => rfl
      | succ frames =>
          refine evaluate_draws_of_rest (.proceed _ fun taken _ => ?_) rfl evaluate_branch_eq
          cases taken with
          | true => exact inner frames (by omega) depth body state
          | false =>
              apply Draws.still
              rintro final ⟨⟩
              rfl
  | call name args =>
      cases frames with
      | zero => exact evaluate_draws_of_rest (fails .outOfFrames) rfl fun _ => rfl
      | succ frames =>
          refine evaluate_draws_of_rest (.proceed _ ?_) rfl evaluate_call_eq
          intro called prepared
          -- The body starts where the call stands, and the caller keeps the cursor of the body.
          obtain ⟨closure, values, -, -, -, -, entered⟩ := prepareCall_ok prepared
          have body := inner frames (by omega) (depth + 1) called.1.body called.2
          rw [entered] at body ⊢
          exact (body.record rfl).finishCall state name (.call name args)

end

theorem evaluate_draws (limits : Limits) (frames depth : Nat) (node : Node) (state : State) :
    Draws state.position (evaluate limits frames depth node state) := by
  induction frames using Nat.strongRecOn generalizing depth node state with
  | _ frames inductionHypothesis =>
      cases frames with
      | zero => exact .still nofun
      | succ frames =>
          exact evaluate_draws_step (fun smaller below => inductionHypothesis smaller (by omega))
            node state

/-- The drawing of a program is one connected path. What an evaluation draws, on a recording behind
all that it held before, starts at the position of the first state, and each further segment starts
at the very point where the one before it ended. When the evaluation returns, the path ends at the
cursor, and its segments start one by one where the forward statements were evaluated. When it
fails, the segments drawn by then are such a path still, and the last forward statement alone may
lack its segment. -/
theorem evaluate_draws_path {limits : Limits} {frames depth : Nat} {node : Node} {state : State}
    {progress after : Progress} {result : Except Failure State}
    (ran : evaluate limits frames depth node state progress = (result, after)) :
    ∃ drawn events,
      progress.canvas.replay drawn = (.ok (), after.canvas) ∧
      (∀ earlier, progress.canvas = .direct (.recording earlier) →
        after.canvas = .direct (.recording (earlier ++ drawn.toArray))) ∧
      after.events.toList = progress.events.toList ++ events ∧
      (∀ final, result = .ok final →
        Path state.position drawn final.position ∧
          drawn.map Segment.start = forwardStarts events) ∧
      ∀ failure, result = .error failure →
        ∃ finish failed, Path state.position drawn finish ∧
          drawn.map Segment.start ++ failed = forwardStarts events ∧ failed.length ≤ 1 := by
  obtain ⟨drawn, events, replayed, added, trail⟩ :=
    evaluate_draws limits frames depth node state progress
  rw [ran] at replayed added trail
  have recorded : ∀ earlier, progress.canvas = .direct (.recording earlier) →
      after.canvas = .direct (.recording (earlier ++ drawn.toArray)) := by
    intro earlier recording
    rw [recording, Canvas.replay_recording] at replayed
    exact (Prod.mk.inj replayed).2.symm
  refine ⟨drawn, events, replayed, recorded, added, ?_, ?_⟩
  · intro final returned
    cases trail with
    | raised _ _ _ => cases returned
    | returned path forwards =>
        cases returned
        exact ⟨path, forwards.symm⟩
  · intro failure raised
    cases trail with
    | returned _ _ => cases raised
    | raised path forwards last => exact ⟨_, _, path, forwards.symm, last⟩

/-- This program leaves a repetition by a stop in a procedure, behind two of its three moves. -/
def cornerThenStops : Node :=
  .seq (.define "side" ["n"] (.seq (.forward (.var "n"))
      (.branch (.eq (.var "n") (.const (.whole 5))) .stop)))
    (.seq (.call "side" [.const (.whole 4)])
      (.seq (.rotate (.const (.whole 90)))
        (.loop (.const (.whole 2)) (.call "side" [.const (.whole 5)]))))

theorem evaluate_draws_path_cornerThenStops :
    ∃ final after first second,
      evaluate {} 60 0 cornerThenStops .origin ⟨.blank, #[]⟩ = (.ok final, after) ∧
      final.terminated = true ∧ after.canvas.segments = [first, second] ∧
      Path State.origin.position [first, second] final.position := by
  obtain ⟨final, after, first, second, ran, stopped, drawing⟩ : ∃ final after first second,
      evaluate {} 60 0 cornerThenStops .origin ⟨.blank, #[]⟩ = (.ok final, after) ∧
      final.terminated = true ∧ after.canvas.segments = [first, second] :=
    ⟨_, _, _, _, rfl, rfl, rfl⟩
  obtain ⟨drawn, events, -, recorded, -, returns, -⟩ := evaluate_draws_path ran
  have segments : after.canvas.segments = drawn := by
    rw [recorded #[] rfl]
    simp [Canvas.segments]
  obtain ⟨path, -⟩ := returns final rfl
  rw [← segments, drawing] at path
  exact ⟨final, after, first, second, ran, stopped, drawing, path⟩

end Turtle
