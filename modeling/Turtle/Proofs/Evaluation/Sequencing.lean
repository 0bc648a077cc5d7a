import Turtle.Proofs.Evaluation.Budget
import Turtle.Proofs.Evaluation.Flatten
import Turtle.Proofs.Node

/-
This file compares evaluations whatever frames they have. A statement has the same effect as the
statements in it one after another, so that only the order of the statements counts and not how
they are nested in sequences.
-/

namespace Turtle

/-- Two evaluations have the same effect, a shortage of frames aside. From the same canvas they come
to one result and to one canvas, whatever frames each of them has, unless one of them runs out of
frames. With enough frames neither does. -/
structure SameEffect (first second : Nat → Progress → Outcome) : Prop where
  agree : ∀ {few many : Nat} {earlier other : Progress}, earlier.canvas = other.canvas →
    Finished (first few earlier).1 → Finished (second many other).1 →
    (first few earlier).1 = (second many other).1 ∧
      (first few earlier).2.canvas = (second many other).2.canvas
  settle : ∀ progress, ∃ enough, ∀ frames, enough ≤ frames →
    Finished (first frames progress).1 ∧ Finished (second frames progress).1

/-- What the first evaluation ends in, the second one ends in within at least as many frames. -/
def Carries (first second : Nat → Progress → Outcome) : Prop :=
  ∀ ⦃short long : Nat⦄, short ≤ long → Coupling.untilShortage.Steps (first short) (second long)

/-- With enough frames the evaluation does not run out of them. -/
def Settles (run : Nat → Progress → Outcome) : Prop :=
  ∀ progress, ∃ enough, ∀ frames, enough ≤ frames → Finished (run frames progress).1

theorem Carries.result_eq {first second : Nat → Progress → Outcome}
    (carries : Carries first second) {short long : Nat} (enough : short ≤ long)
    {earlier other : Progress} (same : earlier.canvas = other.canvas)
    (finished : Finished (first short earlier).1) :
    (first short earlier).1 = (second long other).1 ∧
      (first short earlier).2.canvas = (second long other).2.canvas := by
  rcases Coupling.sameDrawing_cases (carries enough earlier other same) with
    ⟨failure, failed, excused⟩ | together
  · have spared := finished failure failed
    rw [excused] at spared
    cases spared
  · exact together

namespace SameEffect

variable {first second third : Nat → Progress → Outcome}

/-- It is enough that the second evaluation takes over what the first one ends in, and keeps what it
ends in itself, and that the first one settles. -/
theorem of_carries (carries : Carries first second) (steady : Carries second second)
    (settles : Settles first) : SameEffect first second where
  agree := by
    intro few many earlier other same finished otherFinished
    have here := carries.result_eq (Nat.le_max_left few many) same finished
    have there := steady.result_eq (Nat.le_max_right few many) rfl otherFinished
    exact ⟨here.1.trans there.1.symm, here.2.trans there.2.symm⟩
  settle := by
    intro progress
    obtain ⟨enough, finished⟩ := settles progress
    refine ⟨enough, fun frames wide => ⟨finished frames wide, ?_⟩⟩
    have start := finished enough (Nat.le_refl enough)
    rw [← (carries.result_eq wide rfl start).1]
    exact start

theorem symm (same : SameEffect first second) : SameEffect second first where
  agree := by
    intro few many earlier other canvas finished otherFinished
    have together := same.agree canvas.symm otherFinished finished
    exact ⟨together.1.symm, together.2.symm⟩
  settle := by
    intro progress
    obtain ⟨enough, finished⟩ := same.settle progress
    exact ⟨enough, fun frames wide => (finished frames wide).symm⟩

theorem trans (front : SameEffect first second) (back : SameEffect second third) :
    SameEffect first third where
  agree := by
    intro few many earlier other canvas finished otherFinished
    -- The evaluation between them is given frames with which it ends.
    obtain ⟨enough, between⟩ := front.settle earlier
    have middle := (between enough (Nat.le_refl enough)).2
    have here := front.agree rfl finished middle
    have there := back.agree canvas middle otherFinished
    exact ⟨here.1.trans there.1, here.2.trans there.2⟩
  settle := by
    intro progress
    obtain ⟨enough, before⟩ := front.settle progress
    obtain ⟨more, behind⟩ := back.settle progress
    refine ⟨max enough more, fun frames wide => ⟨(before frames ?_).1, (behind frames ?_).2⟩⟩
    · omega
    · omega

end SameEffect

theorem runAll_pair {step : Node → State → Progress → Outcome} (first second : Node)
    (state : State) :
    runAll step [first, second] state = fun progress =>
      match step first state progress with
      | (.ok next, progress) =>
          if next.terminated then (.ok next, progress) else step second next progress
      | (.error failure, progress) => (.error failure, progress) := by
  funext progress
  rw [runAll]
  rcases step first state progress with ⟨failure | next, middle⟩
  · rfl
  · simp only [runAll_single]

section

variable (limits : Limits) (depth : Nat)

theorem evaluate_settles (node : Node) (state : State) :
    Settles fun frames => evaluate limits frames depth node state := by
  intro progress
  obtain ⟨enough, finished⟩ := evaluate_finished limits depth node state
  exact ⟨enough, fun frames wide => finished frames wide progress⟩

theorem runAll_carries (statements : List Node) (state : State) :
    Carries (fun frames => runAll (evaluate limits frames depth) statements state)
      fun frames => runAll (evaluate limits frames depth) statements state := by
  intro short long enough
  induction statements generalizing state with
  | nil => exact .still (.values rfl)
  | cons node rest inductionHypothesis =>
      apply (evaluate_untilShortage limits enough depth node state).andThen
        (congrArg State.terminated)
      intro next partner same
      subst same
      exact inductionHypothesis next

/-- Each statement may be taken apart into the statements in it. -/
theorem runAll_carries_flatMap (statements : List Node) (state : State) :
    Carries (fun frames => runAll (evaluate limits frames depth) statements state)
      fun frames =>
        runAll (evaluate limits frames depth) (statements.flatMap Node.flatten) state := by
  intro short long enough
  induction statements generalizing state with
  | nil => exact .still (.values rfl)
  | cons node rest inductionHypothesis =>
      dsimp only
      rw [List.flatMap_cons, runAll_append (.inl node.flatten_ne_nil)]
      apply (evaluate_flatten limits enough depth node state).1.andThen (congrArg State.terminated)
      intro next partner same
      subst same
      exact inductionHypothesis next

/-- The frames that suffice for the first statement fix the state in which the others start. -/
theorem runAll_settles (statements : List Node) (state : State) :
    Settles fun frames => runAll (evaluate limits frames depth) statements state := by
  induction statements generalizing state with
  | nil => exact fun progress => ⟨0, fun frames _ => finished_ok state⟩
  | cons node rest inductionHypothesis =>
      intro progress
      obtain ⟨enough, finished⟩ := evaluate_settles limits depth node state progress
      have start : Finished (evaluate limits enough depth node state progress).1 :=
        finished enough (Nat.le_refl enough)
      have steady : ∀ frames, enough ≤ frames →
          evaluate limits frames depth node state progress =
            evaluate limits enough depth node state progress :=
        fun frames wide => evaluate_steady limits wide depth node state progress start
      rcases ran : evaluate limits enough depth node state progress with ⟨failure | next, middle⟩
      · refine ⟨enough, fun frames wide => ?_⟩
        rw [ran] at start
        simpa only [runAll, steady frames wide, ran] using start
      · obtain ⟨more, others⟩ := inductionHypothesis next middle
        refine ⟨max enough more, fun frames wide => ?_⟩
        simp only [runAll, steady frames (by omega), ran]
        cases next.terminated with
        | true => exact finished_ok next
        | false => exact others frames (by omega)

/-- A statement has the same effect as any statements with the same parts in the same order, taken
one after another. -/
theorem sameEffect_of_flatten {node : Node} {statements : List Node}
    (same : node.flatten = statements.flatMap Node.flatten) (state : State) :
    SameEffect (fun frames => evaluate limits frames depth node state)
      fun frames => runAll (evaluate limits frames depth) statements state := by
  have parts := runAll_carries limits depth (statements.flatMap Node.flatten) state
  have whole : Carries (fun frames => evaluate limits frames depth node state) fun frames =>
      runAll (evaluate limits frames depth) (statements.flatMap Node.flatten) state := by
    intro short long enough
    rw [← same]
    exact (evaluate_flatten limits enough depth node state).1
  have front := SameEffect.of_carries whole parts (evaluate_settles limits depth node state)
  have back := SameEffect.of_carries (runAll_carries_flatMap limits depth statements state) parts
    (runAll_settles limits depth statements state)
  exact front.trans back.symm

end

namespace Node

theorem flatMap_flatten (node : Node) : node.flatten.flatMap flatten = node.flatten := by
  fun_induction flatten node with
  | case1 first second firstHypothesis secondHypothesis =>
      rw [List.flatMap_append, firstHypothesis, secondHypothesis]
  | case2 node single =>
      rw [List.flatMap_singleton, flatten.eq_2 node single]

/-- The sequence of some statements has their parts in their order. -/
theorem flatten_of_sequenceOf? {statements : List Node} {node : Node}
    (found : sequenceOf? statements = some node) :
    node.flatten = statements.flatMap flatten := by
  fun_induction sequenceOf? statements generalizing node with
  | case1 => cases found
  | case2 statement =>
      cases found
      simp
  | case3 statement rest nonempty inductionHypothesis =>
      obtain ⟨tail, more, rfl⟩ := Option.map_eq_some_iff.mp found
      rw [flatten, inductionHypothesis more, List.flatMap_cons]

end Node

/-- Only the flattened list of its statements counts for what a program does. From any state, and a
shortage of frames aside, a statement comes to the state or the failure, and to the drawing, of the
statements in it, taken one after another until one of them stops. So does the sequence nested to
the right of these statements. A sequence is its first part, and unless this stops its second part.
-/
theorem evaluate_as_flattened (limits : Limits) (depth : Nat) (node : Node) (state : State) :
    SameEffect (fun frames => evaluate limits frames depth node state)
        (fun frames => runAll (evaluate limits frames depth) node.flatten state) ∧
    (∃ canonical, Node.sequenceOf? node.flatten = some canonical ∧
      SameEffect (fun frames => evaluate limits frames depth node state)
        fun frames => evaluate limits frames depth canonical state) ∧
    ∀ first second,
      SameEffect (fun frames => evaluate limits frames depth (.seq first second) state)
        fun frames progress =>
          match evaluate limits frames depth first state progress with
          | (.ok next, progress) =>
              if next.terminated then (.ok next, progress)
              else evaluate limits frames depth second next progress
          | (.error failure, progress) => (.error failure, progress) := by
  have each := sameEffect_of_flatten limits depth node.flatMap_flatten.symm state
  refine ⟨each, ?_, ?_⟩
  · obtain ⟨canonical, found⟩ := Node.exists_sequenceOf? node.flatten_ne_nil
    have parts := Node.flatten_of_sequenceOf? found
    exact ⟨canonical, found, each.trans (sameEffect_of_flatten limits depth parts state).symm⟩
  · intro first second
    have pair : (Node.seq first second).flatten = [first, second].flatMap Node.flatten := by
      simp [Node.flatten]
    have parts := sameEffect_of_flatten limits depth pair state
    simp only [runAll_pair] at parts
    exact parts

end Turtle
