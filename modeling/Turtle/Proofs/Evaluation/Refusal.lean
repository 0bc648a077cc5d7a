import Turtle.Proofs.Evaluation.Cursor

/-
This file shows that a program is never stopped by a canvas that takes segments. Every segment that
a move leaves behind can be drawn, so that such a canvas refuses none of them.
-/

namespace Turtle

open Fallible

def Failure.isCanvas : Failure → Bool
  | .canvas _ => true
  | _ => false

/-- The computation never fails on account of the canvas. -/
abbrev SparesCanvas {α : Type} (result : Except Failure α) : Prop :=
  FailsOnly (fun failure => failure.isCanvas = false) result

theorem liftArithmetic_sparesCanvas {α : Type} (result : Except ArithmeticError α) :
    SparesCanvas (liftArithmetic result) := by
  cases result with
  | ok value => exact failsOnly_ok value
  | error error => exact failsOnly_error rfl

theorem evaluateExpression_sparesCanvas (bindings : Bindings) (frames : Nat) (node : Node) :
    SparesCanvas (evaluateExpression bindings frames node) := by
  induction frames generalizing node with
  | zero => exact failsOnly_error rfl
  | succ frames inductionHypothesis =>
      cases node with
      | const value | var name => exact failsOnly_ok _
      | sub left right =>
          exact (inductionHypothesis left).bind fun _ => (inductionHypothesis right).bind fun _ =>
            liftArithmetic_sparesCanvas _
      | div left right =>
          refine (inductionHypothesis right).bind fun divisor => ?_
          dsimp only
          split
          · exact failsOnly_error rfl
          · exact (inductionHypothesis left).bind fun _ => liftArithmetic_sparesCanvas _
      | _ => exact failsOnly_error rfl

theorem evaluateComparison_sparesCanvas (bindings : Bindings) (frames : Nat) (node : Node) :
    SparesCanvas (evaluateComparison bindings frames node) := by
  cases node with
  | eq left right =>
      exact (evaluateExpression_sparesCanvas bindings frames left).bind fun _ =>
        (evaluateExpression_sparesCanvas bindings frames right).bind fun _ => failsOnly_ok _
  | _ => exact failsOnly_error rfl

theorem turn_sparesCanvas (state : State) (degrees : Number) :
    SparesCanvas (turn state degrees) :=
  (liftArithmetic_sparesCanvas _).bind fun _ => failsOnly_ok _

theorem repeatCount_sparesCanvas (limits : Limits) (times : Number) (node : Node) :
    SparesCanvas (repeatCount limits times node) := by
  rw [repeatCount]
  split
  · exact failsOnly_ok _
  · split
    · exact (liftArithmetic_sparesCanvas _).bind fun _ =>
        (liftArithmetic_sparesCanvas _).bind fun _ => failsOnly_error rfl
    · exact failsOnly_ok _
  · exact failsOnly_error rfl

theorem prepareCall_sparesCanvas (limits : Limits) (frames depth : Nat) (name : String)
    (args : List Node) (node : Node) (state : State) :
    SparesCanvas (prepareCall limits frames depth name args node state) := by
  rw [prepareCall]
  split
  · exact failsOnly_error rfl
  · split
    · rcases callRefusal_cases limits.maxCallDepth name node with refused | refused <;>
        rw [refused] <;> exact failsOnly_error rfl
    · exact FailsOnly.bind
        (.mapM fun arg _ => evaluateExpression_sparesCanvas state.bindings frames arg)
        fun _ => failsOnly_ok _

theorem callResult_sparesCanvas {result : Except Failure State} (spares : SparesCanvas result)
    (caller : State) (name : String) (node : Node) :
    SparesCanvas (callResult caller name node result) := by
  intro failure failed
  obtain ⟨inner, same, rfl⟩ := callResult_failed failed
  have spared := spares inner same
  cases inner with
  | canvas error => cases spared
  | runtime _ | arithmetic _ | outOfFrames => rfl

/-- On a canvas that takes segments the step does not fail on account of it, and the canvas goes on
to take segments. -/
def Unrefused (step : Progress → Outcome) : Prop :=
  ∀ progress, progress.canvas.refusal = none →
    SparesCanvas (step progress).1 ∧ (step progress).2.canvas.refusal = none

namespace Unrefused

variable {step : Progress → Outcome}

theorem still {result : Except Failure State} (spares : SparesCanvas result) :
    Unrefused fun progress => (result, progress) :=
  fun _ takes => ⟨spares, takes⟩

theorem record (unrefused : Unrefused step) (event : Event) :
    Unrefused fun progress => step (progress.record event) :=
  fun progress takes => unrefused (progress.record event) takes

theorem proceed {α : Type} {next : α → Progress → Outcome} {first : Except Failure α}
    (spares : SparesCanvas first) (others : ∀ value, Unrefused (next value)) :
    Unrefused (Turtle.proceed next first) := by
  cases first with
  | ok value => exact others value
  | error failure => exact .still (failsOnly_error (spares failure rfl))

theorem finishCall (unrefused : Unrefused step) (caller : State) (name : String) (node : Node) :
    Unrefused fun progress => Turtle.finishCall caller name node (step progress) := by
  intro progress takes
  obtain ⟨spares, remains⟩ := unrefused progress takes
  exact ⟨callResult_sparesCanvas spares caller name node, remains⟩

theorem andThen {more : State → Progress → Outcome} (unrefused : Unrefused step)
    (others : ∀ state, Unrefused (more state)) :
    Unrefused fun progress =>
      match step progress with
      | (.ok next, progress) =>
          if next.terminated then (.ok next, progress) else more next progress
      | (.error failure, progress) => (.error failure, progress) := by
  intro progress takes
  obtain ⟨spares, remains⟩ := unrefused progress takes
  dsimp only
  generalize step progress = outcome at spares remains ⊢
  obtain ⟨failure | next, middle⟩ := outcome
  · exact ⟨failsOnly_error (spares failure rfl), remains⟩
  · dsimp only
    split
    · exact ⟨failsOnly_ok next, remains⟩
    · exact others next middle remains

end Unrefused

theorem moveForward_unrefused (state : State) (pixels : Number) :
    Unrefused (moveForward state pixels) := by
  intro progress takes
  cases moved : state.advance pixels with
  | error error =>
      simp only [moveForward, moved]
      exact ⟨failsOnly_error rfl, takes⟩
  | ok finish =>
      have drawable := State.isDrawable_of_advance moved
      obtain ⟨next, drawn, remains, -⟩ := Canvas.draw_of_drawable takes drawable
      simp only [moveForward, moved, Progress.record, drawn]
      exact ⟨failsOnly_ok _, remains⟩

theorem runSequence_unrefused {step : Node → State → Progress → Outcome}
    (unrefused : ∀ node state, Unrefused (step node state)) (node : Node) (state : State) :
    Unrefused (runSequence step node state) := by
  fun_induction Node.flatten node generalizing state with
  | case1 first second _ secondHypothesis => exact (unrefused first state).andThen secondHypothesis
  | case2 node single =>
      rw [runSequence_of_single single]
      exact unrefused node state

theorem runLoop_unrefused {step : State → Progress → Outcome}
    (unrefused : ∀ state, Unrefused (step state)) (count : Nat) (state : State) :
    Unrefused (runLoop step count state) := by
  induction count generalizing state with
  | zero => exact .still (failsOnly_ok state)
  | succ count inductionHypothesis => exact (unrefused state).andThen inductionHypothesis

section

variable {limits : Limits} {frames depth : Nat}

theorem evaluate_unrefused_of_rest {node : Node} {state : State} {rest : Progress → Outcome}
    (unrefused : Unrefused rest)
    (same : ∀ progress, evaluate limits (frames + 1) depth node state progress =
      rest (progress.record (.evaluating node state))) :
    Unrefused (evaluate limits (frames + 1) depth node state) := by
  rw [funext same]
  exact unrefused.record _

/-- A statement is not refused when no statement is within fewer frames. -/
theorem evaluate_unrefused_step
    (inner : ∀ smaller < frames, ∀ depth node state,
      Unrefused (evaluate limits smaller depth node state))
    (node : Node) (state : State) :
    Unrefused (evaluate limits (frames + 1) depth node state) := by
  have fails : ∀ {failure : Failure}, failure.isCanvas = false →
      Unrefused fun progress => (.error failure, progress) :=
    fun spared => .still (failsOnly_error spared)
  have expression := evaluateExpression_sparesCanvas state.bindings
  cases node with
  | forward pixels =>
      exact evaluate_unrefused_of_rest
        (.proceed (expression frames pixels) (moveForward_unrefused state)) evaluate_forward_eq
  | rotate degrees =>
      have turned := (expression frames degrees).bind (turn_sparesCanvas state)
      exact evaluate_unrefused_of_rest (.still turned) fun _ => rfl
  | setHeading degrees =>
      refine evaluate_unrefused_of_rest (.still ?_) fun _ => rfl
      have headed := expression frames degrees
      cases evaluated : evaluateExpression state.bindings frames degrees with
      | ok value => exact failsOnly_ok _
      | error failure => exact failsOnly_error (headed failure evaluated)
  | define name params body | stop =>
      exact evaluate_unrefused_of_rest (.still (failsOnly_ok _)) fun _ => rfl
  | const value | var name | sub left right | div left right | eq left right =>
      exact evaluate_unrefused_of_rest (fails rfl) fun _ => rfl
  | seq first second =>
      cases frames with
      | zero => exact evaluate_unrefused_of_rest (fails rfl) fun _ => rfl
      | succ frames =>
          have spine := runSequence_unrefused (inner frames (by omega) depth)
            (.seq first second) state
          exact evaluate_unrefused_of_rest spine fun _ => rfl
  | loop times body =>
      cases frames with
      | zero => exact evaluate_unrefused_of_rest (fails rfl) fun _ => rfl
      | succ frames =>
          have counted := (expression frames times).bind fun value =>
            repeatCount_sparesCanvas limits value (.loop times body)
          have rounds := runLoop_unrefused (inner frames (by omega) depth body)
          exact evaluate_unrefused_of_rest (.proceed counted fun count => rounds count state)
            evaluate_loop_eq
  | branch condition body =>
      cases frames with
      | zero => exact evaluate_unrefused_of_rest (fails rfl) fun _ => rfl
      | succ frames =>
          have compared := evaluateComparison_sparesCanvas state.bindings frames condition
          refine evaluate_unrefused_of_rest (.proceed compared fun taken => ?_) evaluate_branch_eq
          cases taken with
          | true => exact inner frames (by omega) depth body state
          | false => exact .still (failsOnly_ok _)
  | call name args =>
      cases frames with
      | zero => exact evaluate_unrefused_of_rest (fails rfl) fun _ => rfl
      | succ frames =>
          have prepared := prepareCall_sparesCanvas limits frames depth name args (.call name args)
            state
          refine evaluate_unrefused_of_rest (.proceed prepared fun called => ?_) evaluate_call_eq
          have body := inner frames (by omega) (depth + 1) called.1.body called.2
          exact (body.record _).finishCall state name (.call name args)

end

theorem evaluate_unrefused (limits : Limits) (frames depth : Nat) (node : Node) (state : State) :
    Unrefused (evaluate limits frames depth node state) := by
  induction frames using Nat.strongRecOn generalizing depth node state with
  | _ frames inductionHypothesis =>
      cases frames with
      | zero => exact .still (failsOnly_error rfl)
      | succ frames =>
          exact evaluate_unrefused_step
            (fun smaller below => inductionHypothesis smaller (by omega)) node state

/-- A program that fails on a canvas that takes segments does not fail on account of it. -/
theorem Interpreter.evaluateDirectly_ne_canvas (interpreter : Interpreter) (node : Node)
    (state : State) {canvas : Canvas} (takes : canvas.refusal = none) (error : CanvasError) :
    (interpreter.evaluateDirectly node canvas state).result ≠
      .error (.failing (.canvas error)) := by
  intro failed
  have spares := (evaluate_unrefused interpreter.limits interpreter.limits.frames 0 node state
    ⟨canvas, #[]⟩ takes).1
  rw [evaluateDirectly, evaluateWithin] at failed
  dsimp only at failed
  generalize evaluate interpreter.limits interpreter.limits.frames 0 node state _ = outcome
    at spares failed
  obtain ⟨failure | final, progress⟩ := outcome
  · cases failed
    cases spares _ rfl
  · cases failed

end Turtle
