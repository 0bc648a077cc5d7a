import Turtle.Proofs.Evaluation.Lockstep

/-
This file shows that a program does what its statements do one after another, however they are
nested in sequences.
-/

namespace Turtle

/-- The statements run one after another until one of them stops. -/
def runAll (step : Node → State → Progress → Outcome) : List Node → State → Progress → Outcome
  | [], state, progress => (.ok state, progress)
  | node :: rest, state, progress =>
      match step node state progress with
      | (.ok next, progress) =>
          if next.terminated then (.ok next, progress) else runAll step rest next progress
      | (.error failure, progress) => (.error failure, progress)

section

variable {step : Node → State → Progress → Outcome}

theorem runAll_single (node : Node) (state : State) :
    runAll step [node] state = step node state := by
  funext progress
  rw [runAll]
  rcases step node state progress with ⟨failure | next, after⟩
  · rfl
  · simp [runAll]

/-- The statements of the second list follow those of the first, unless one of these stops. A stop
that was pending before does not count when there is a first statement. -/
theorem runAll_append {first : List Node} {state : State}
    (runs : first ≠ [] ∨ state.terminated = false) (second : List Node) :
    runAll step (first ++ second) state = fun progress =>
      match runAll step first state progress with
      | (.ok next, progress) =>
          if next.terminated then (.ok next, progress) else runAll step second next progress
      | (.error failure, progress) => (.error failure, progress) := by
  funext progress
  induction first generalizing state progress with
  | nil =>
      have running : state.terminated = false := runs.resolve_left (absurd rfl)
      simp [runAll, running]
  | cons node rest inductionHypothesis =>
      rw [List.cons_append, runAll, runAll]
      rcases step node state progress with ⟨failure | next, after⟩
      · rfl
      · cases stopped : next.terminated with
        | true => simp only [stopped, if_true]
        | false => simpa [stopped] using inductionHypothesis (.inr stopped) after

end

theorem Node.flatten_ne_nil (node : Node) : node.flatten ≠ [] := by
  fun_induction Node.flatten node with
  | case1 first second nonempty _ => simp [nonempty]
  | case2 node single => simp

/-- Two evaluations have the same states and canvases, until the first fails in a way that is
excused. Their events may differ. -/
def Coupling.sameDrawing (excused : Failure → Prop) : Coupling where
  states := Eq
  progress earlier other := earlier.canvas = other.canvas
  excusesFirst := excused
  excusesSecond _ := False

namespace Coupling

/-- Unless the first outcome is excused, both have one result and one canvas. -/
theorem sameDrawing_cases {excused : Failure → Prop} {first second : Outcome}
    (ends : (sameDrawing excused).Ends first second) :
    (∃ failure, first.1 = .error failure ∧ excused failure) ∨
      first.1 = second.1 ∧ first.2.canvas = second.2.canvas := by
  cases ends with
  | values together along => exact .inr ⟨congrArg Except.ok together, along⟩
  | failures failure along => exact .inr ⟨rfl, along⟩
  | firstExcused excused _ => exact .inl ⟨_, rfl, excused⟩
  | secondExcused excused _ => exact excused.elim

theorem moveForward_sameDrawing (state : State) (pixels : Number) (excused : Failure → Prop) :
    (sameDrawing excused).Steps (moveForward state pixels) (moveForward state pixels) := by
  intro earlier other along
  have canvas : earlier.canvas = other.canvas := along
  simp only [moveForward, Progress.record, canvas]
  cases state.advance pixels with
  | error error => exact .failures _ rfl
  | ok finish =>
      dsimp only
      rcases other.canvas.draw ⟨state.position, finish⟩ with ⟨error | done, next⟩
      · exact .failures _ rfl
      · exact .values rfl rfl

theorem sameDrawing_keeps (limits : Limits) :
    (sameDrawing fun _ => False).Keeps limits limits where
  patient := ⟨id, id⟩
  bindings := by rintro state _ rfl; rfl
  terminated := by rintro state _ rfl; rfl
  marks := by rintro state _ mark rfl; rfl
  heads := by rintro state _ heading rfl; rfl
  defines := by rintro state _ name params body rfl; rfl
  leaves := by rintro caller _ called _ rfl rfl; rfl
  starts _ _ along := along
  records _ along := along
  turns := by rintro state _ degrees rfl; exact .refl (fun _ => rfl) _
  moves := by rintro state _ pixels rfl; exact moveForward_sameDrawing state pixels _
  counts _ _ := .refl (fun _ => rfl) _
  prepares := by
    rintro state _ frames depth name args node rfl
    exact .refl (fun _ => ⟨rfl, rfl⟩) _

/-- The first evaluation may run out of frames. -/
def untilShortage : Coupling :=
  sameDrawing fun failure => failure.isShortage = true

theorem untilShortage_of_finished {first second : Outcome}
    (same : Finished first.1 → first.1 = second.1 ∧ first.2.canvas = second.2.canvas) :
    untilShortage.Ends first second := by
  obtain ⟨result, earlier⟩ := first
  obtain ⟨answer, other⟩ := second
  cases result with
  | ok state =>
      obtain ⟨rfl, along⟩ := same (finished_ok state)
      exact .values rfl along
  | error failure =>
      by_cases short : failure.isShortage = true
      · exact .firstExcused short _
      · obtain ⟨rfl, along⟩ := same (finished_error.mpr (by simpa using short))
        exact .failures failure along

end Coupling

section

variable (limits : Limits) {short long : Nat} (enough : short ≤ long) (depth : Nat)

include enough

/-- Neither the earlier events nor more frames change what a statement does. -/
theorem evaluate_untilShortage (node : Node) (state : State) :
    Coupling.untilShortage.Steps (evaluate limits short depth node state)
      (evaluate limits long depth node state) := by
  intro earlier other along
  apply Coupling.untilShortage_of_finished
  intro finished
  have together : (Coupling.sameDrawing fun _ => False).states state state := rfl
  have ends := (Coupling.sameDrawing_keeps limits).evaluate short depth node together
  rcases Coupling.sameDrawing_cases (ends earlier other along) with ⟨failure, -, excused⟩ | same
  · exact excused.elim
  · rw [evaluate_steady limits enough depth node state other (same.1 ▸ finished)]
    exact same

/-- A statement, and what is left of a sequence, does what the statements in it do one after
another. -/
theorem evaluate_flatten (node : Node) (state : State) :
    Coupling.untilShortage.Steps (evaluate limits short depth node state)
        (runAll (evaluate limits long depth) node.flatten state) ∧
      Coupling.untilShortage.Steps (runSequence (evaluate limits short depth) node state)
        (runAll (evaluate limits long depth) node.flatten state) := by
  fun_induction Node.flatten node generalizing short state with
  | case1 first second firstHypothesis secondHypothesis =>
      -- The first part is a statement with frames of its own, the second goes on along the spine.
      have spine : ∀ {short : Nat}, short ≤ long →
          Coupling.untilShortage.Steps
            (runSequence (evaluate limits short depth) (.seq first second) state)
            (runAll (evaluate limits long depth) (first.flatten ++ second.flatten) state) := by
        intro short enough
        rw [runAll_append (.inl first.flatten_ne_nil)]
        apply (firstHypothesis enough state).1.andThen (congrArg State.terminated)
        rintro next _ rfl
        exact (secondHypothesis enough next).2
      refine ⟨?_, spine enough⟩
      rcases short with _ | _ | short
      · exact fun _ _ _ => .firstExcused rfl _
      · exact fun _ _ _ => .firstExcused rfl _
      · intro earlier other along
        exact spine (by omega) (earlier.record (.evaluating (.seq first second) state)) other along
  | case2 node single =>
      rw [runAll_single, runSequence_of_single single]
      have same := evaluate_untilShortage limits enough depth node state
      exact ⟨same, same⟩

/-- Evaluation ends with a shortage of frames, or as the statements do one after another within
more frames. -/
theorem evaluate_flatten_cases (node : Node) (state : State) (progress : Progress) :
    let outcome := evaluate limits short depth node state progress
    let each := runAll (evaluate limits long depth) node.flatten state progress
    (∃ failure, outcome.1 = .error failure ∧ failure.isShortage = true) ∨
      outcome.1 = each.1 ∧ outcome.2.canvas = each.2.canvas :=
  Coupling.sameDrawing_cases
    ((evaluate_flatten limits enough depth node state).1 progress progress rfl)

end

end Turtle
