import Turtle.Proofs.Evaluation.Limits
import Turtle.Proofs.Evaluation.Sequencing

/-
This file shows that a repetition does what its body, written out once for each round, does as a
sequence.
-/

namespace Turtle

/-- The value is within the limit, and without a limit some whole number bounds it. -/
def RepeatLimit.Admits (limit : RepeatLimit) (value : Number) : Prop :=
  match limit with
  | .unlimited => ∃ bound : Int, value.exceeds bound = false
  | .atMost most => value.exceeds most = false
  | .blank => False

theorem RepeatLimit.Admits.bounded {limit : RepeatLimit} {value : Number}
    (admits : limit.Admits value) : ∃ bound : Int, value.exceeds bound = false := by
  cases limit with
  | unlimited => exact admits
  | atMost most => exact ⟨most, admits⟩
  | blank => exact admits.elim

theorem repeatCount_of_admits {limits : Limits} {value : Number}
    (admits : limits.maxRepeat.Admits value) (node : Node) :
    repeatCount limits value node = .ok value.countBelow := by
  cases limited : limits.maxRepeat with
  | unlimited => simp only [repeatCount, limited]
  | atMost most =>
      rw [limited] at admits
      exact repeatCount_of_within limited node admits
  | blank =>
      rw [limited] at admits
      exact admits.elim

/-- The rounds of a repetition are copies of its body one after another. -/
theorem runLoop_eq_runAll (step : Node → State → Progress → Outcome) (body : Node) (count : Nat)
    (state : State) :
    runLoop (step body) count state = runAll step (List.replicate count body) state := by
  induction count generalizing state with
  | zero => rfl
  | succ count inductionHypothesis =>
      funext progress
      rw [runLoop, List.replicate_succ, runAll]
      rcases step body state progress with ⟨failure | next, middle⟩
      · rfl
      · simp only [inductionHypothesis]

/-- The statements are evaluated as one sequence nested to the right, and without any of them the
state stays as it is. -/
def evaluateSequenceOf (limits : Limits) (frames depth : Nat) (statements : List Node)
    (state : State) (progress : Progress) : Outcome :=
  match Node.sequenceOf? statements with
  | some node => evaluate limits frames depth node state progress
  | none => (.ok state, progress)

/-- The sequence of some statements has the same effect as these one after another. -/
theorem evaluateSequenceOf_sameEffect (limits : Limits) (depth : Nat) (statements : List Node)
    (state : State) :
    SameEffect (fun frames => evaluateSequenceOf limits frames depth statements state)
      fun frames => runAll (evaluate limits frames depth) statements state := by
  have steady := runAll_carries limits depth statements state
  cases statements with
  | nil => exact .of_carries steady steady (runAll_settles limits depth [] state)
  | cons first rest =>
      obtain ⟨node, found⟩ := Node.exists_sequenceOf? (List.cons_ne_nil first rest)
      have parts := sameEffect_of_flatten limits depth (Node.flatten_of_sequenceOf? found) state
      have same : ∀ frames, evaluateSequenceOf limits frames depth (first :: rest) state =
          evaluate limits frames depth node state := by
        intro frames
        funext progress
        simp only [evaluateSequenceOf, found]
      simp only [same]
      exact parts

section

variable {limits : Limits} {depth enough : Nat} {times body : Node} {state : State}
  {value : Number} (evaluated : evaluateExpression state.bindings enough times = .ok value)

include evaluated

/-- An expression that has a value within some frames keeps it within more of them. -/
theorem evaluateExpression_of_le {frames : Nat} (wide : enough ≤ frames) :
    evaluateExpression state.bindings frames times = .ok value := by
  rw [← evaluated]
  apply evaluateExpression_agrees state.bindings wide times
  rw [evaluated]
  exact finished_ok value

/-- Within any frames it has no other value, or runs out of them. -/
theorem evaluateExpression_cases (frames : Nat) :
    evaluateExpression state.bindings frames times = .ok value ∨
      ∃ failure, evaluateExpression state.bindings frames times = .error failure ∧
        failure.isShortage = true := by
  by_cases finished : Finished (evaluateExpression state.bindings frames times)
  · left
    rw [← evaluateExpression_of_le evaluated (Nat.le_max_right frames enough)]
    have agrees := evaluateExpression_agrees state.bindings (Nat.le_max_left frames enough) times
    exact (agrees finished).symm
  · right
    simpa [Finished] using finished

/-- A repetition that the limit admits ends as its rounds do. -/
theorem loop_carries (admits : limits.maxRepeat.Admits value) :
    Carries (fun frames => evaluate limits frames depth (.loop times body) state) fun frames =>
      runAll (evaluate limits frames depth) (List.replicate value.countBelow body) state := by
  intro short long wide earlier other same
  match short with
  | 0 | 1 => exact .firstExcused rfl _
  | short + 2 =>
      dsimp only
      rw [evaluate_loop_eq]
      rcases evaluateExpression_cases evaluated short with found | ⟨failure, failed, shortage⟩
      · rw [found, Fallible.ok_bind, repeatCount_of_admits admits, proceed,
          runLoop_eq_runAll (evaluate limits short depth)]
        apply runAll_carries limits depth _ state (by omega)
        exact same
      · rw [failed]
        exact .firstExcused shortage _

/-- A repetition over the limit fails before its first round. -/
theorem loop_refused {most : Int} (limited : limits.maxRepeat = .atMost most)
    (exceeds : value.exceeds most = true) (frames : Nat) (progress : Progress) :
    ∃ failure, evaluate limits (frames + 2) depth (.loop times body) state progress =
        (.error failure, progress.record (.evaluating (.loop times body) state)) ∧
      (enough ≤ frames → failure.isLimit = true) := by
  rw [evaluate_loop_eq]
  rcases evaluateExpression_cases evaluated frames with found | ⟨failure, failed, shortage⟩
  · obtain ⟨failure, refused, reported⟩ :=
      repeatCount_of_exceeds limited (.loop times body) exceeds
    rw [found, Fallible.ok_bind, refused]
    exact ⟨failure, rfl, fun _ => reported⟩
  · refine ⟨failure, by rw [failed]; rfl, ?_⟩
    intro wide
    rw [evaluateExpression_of_le evaluated wide] at failed
    cases failed

end

/-- A repetition is its body written out. The count has a value in the bindings at the start. If the
limit admits the value, the repetition has the same effect, whether a stop is pending at the start
or not, as the sequence of as many copies of its body as there are natural numbers below the value,
and without any copy the state stays as it is. If the value exceeds the limit, the repetition fails
with nothing drawn and no other statement begun, and with enough frames it reports the limit. -/
theorem repetition_unrolls {limits : Limits} {depth enough : Nat} {times body : Node}
    {state : State} {value : Number}
    (evaluated : evaluateExpression state.bindings enough times = .ok value) :
    (limits.maxRepeat.Admits value →
      ∃ count : Nat, (∀ index : Nat, index < count ↔ value.exceeds index = true) ∧
        SameEffect (fun frames => evaluate limits frames depth (.loop times body) state)
          fun frames =>
            evaluateSequenceOf limits frames depth (List.replicate count body) state) ∧
    ∀ most, limits.maxRepeat = .atMost most → value.exceeds most = true →
      ∀ frames progress, ∃ failure after,
        evaluate limits frames depth (.loop times body) state progress =
          (.error failure, after) ∧
        after.canvas = progress.canvas ∧
        after.events.toList <+: progress.events.toList ++ [.evaluating (.loop times body) state] ∧
        (enough + 2 ≤ frames → failure.isLimit = true) := by
  constructor
  · intro admits
    obtain ⟨bound, within⟩ := admits.bounded
    refine ⟨value.countBelow, Number.lt_countBelow_iff within, ?_⟩
    have rounds := SameEffect.of_carries (loop_carries evaluated admits)
      (runAll_carries limits depth (List.replicate value.countBelow body) state)
      (evaluate_settles limits depth (.loop times body) state)
    exact rounds.trans (evaluateSequenceOf_sameEffect limits depth _ state).symm
  · intro most limited exceeds frames progress
    match frames with
    | 0 => exact ⟨_, _, rfl, rfl, List.prefix_append _ _, by omega⟩
    | 1 => exact ⟨_, _, rfl, rfl, by simp [Progress.record], by omega⟩
    | frames + 2 =>
        obtain ⟨failure, failed, reported⟩ := loop_refused evaluated limited exceeds frames progress
        refine ⟨failure, _, failed, rfl, by simp [Progress.record], ?_⟩
        intro wide
        exact reported (by omega)

/-- Three natural numbers are below five halves. -/
def fiveHalves : Node :=
  .div (.const (.whole 5)) (.const (.whole 2))

def corner : Node :=
  .seq (.forward (.const (.whole 10))) (.rotate (.const (.whole 90)))

/-- A stop is pending at the origin. -/
def pendingStop : State :=
  { State.origin with terminated := true }

theorem repetition_unrolls_fiveHalves :
    ∃ value, evaluateExpression [] 2 fiveHalves = .ok value ∧
      (RepeatLimit.atMost 3).Admits value ∧
      SameEffect
        (fun frames => evaluate ⟨.atMost 3, 5⟩ frames 0 (.loop fiveHalves corner) pendingStop)
        (fun frames =>
          evaluateSequenceOf ⟨.atMost 3, 5⟩ frames 0 [corner, corner, corner] pendingStop) ∧
      value.exceeds 2 = true ∧
      ∃ failure after,
        evaluate ⟨.atMost 2, 5⟩ 4 0 (.loop fiveHalves corner) .origin ⟨.blank, #[]⟩ =
          (.error failure, after) ∧ after.canvas = .blank ∧ failure.isLimit = true := by
  obtain ⟨value, evaluated, above, within⟩ : ∃ value,
      evaluateExpression [] 2 fiveHalves = .ok value ∧ value.exceeds 2 = true ∧
        value.exceeds 3 = false := ⟨_, rfl, by decide +kernel, by decide +kernel⟩
  obtain ⟨count, counts, same⟩ := (@repetition_unrolls ⟨.atMost 3, 5⟩ 0 2 fiveHalves corner
    pendingStop value evaluated).1 within
  have three : count = 3 := by
    have reached := (counts 2).mpr above
    have ended : ¬ 3 < count := by
      intro more
      have exceeded : value.exceeds 3 = true := (counts 3).mp more
      rw [within] at exceeded
      cases exceeded
    omega
  obtain ⟨failure, after, failed, canvas, -, reported⟩ := (@repetition_unrolls ⟨.atMost 2, 5⟩ 0 2
    fiveHalves corner .origin value evaluated).2 2 rfl above 4 ⟨.blank, #[]⟩
  rw [three] at same
  exact ⟨value, evaluated, within, same, above, failure, after, failed, canvas,
    reported (by omega)⟩

end Turtle
