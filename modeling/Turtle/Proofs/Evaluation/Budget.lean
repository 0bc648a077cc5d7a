import Turtle.Proofs.Evaluation.Bodies
import Turtle.Proofs.Evaluation.Frames

/-
This file computes a frame budget within which an evaluation never runs out of frames. It depends on
the trees and on the limit of open calls alone.
-/

namespace Turtle

/-- These are the frames that an expression takes. -/
def Node.levels : Node → Nat
  | .sub left right | .div left right => max left.levels right.levels + 1
  | _ => 1

def Node.comparisonLevels : Node → Nat
  | .eq left right => max left.levels right.levels
  | _ => 0

def Node.argumentLevels : List Node → Nat
  | [] => 0
  | arg :: rest => max arg.levels (argumentLevels rest)

/-- A sequence takes two frames for itself before its statements take theirs. -/
def Node.entryFrames : Node → Nat
  | .seq _ _ => 2
  | _ => 0

/-- These are the frames that the statements along a spine take, if a called body takes the given
number. -/
def Node.spineFrames (called : Nat) : Node → Nat
  | .forward operand | .rotate operand | .setHeading operand => operand.levels + 1
  | .seq first second =>
      max (first.entryFrames + first.spineFrames called) (second.spineFrames called)
  | .loop times body => max times.levels (body.entryFrames + body.spineFrames called) + 2
  | .branch condition body =>
      max condition.comparisonLevels (body.entryFrames + body.spineFrames called) + 2
  | .call _ args => max (argumentLevels args) called + 2
  | _ => 1

def Node.frames (called : Nat) (node : Node) : Nat :=
  node.entryFrames + node.spineFrames called

def Task.frames (called : Nat) : Task → Nat
  | .statement node | .rounds _ node => node.frames called
  | .spine node => node.spineFrames called

theorem Node.levels_pos (node : Node) : 0 < node.levels := by
  cases node <;> simp [levels]

theorem Node.spineFrames_pos (called : Nat) (node : Node) : 0 < node.spineFrames called := by
  fun_induction Node.spineFrames called node <;> omega

theorem Node.frames_pos (called : Nat) (node : Node) : 0 < node.frames called :=
  Nat.add_pos_right _ (node.spineFrames_pos called)

theorem evaluateExpression_finished (bindings : Bindings) {frames : Nat} {node : Node}
    (enough : node.levels ≤ frames) : Finished (evaluateExpression bindings frames node) := by
  induction frames generalizing node with
  | zero =>
      have positive := node.levels_pos
      omega
  | succ frames inductionHypothesis =>
      cases node with
      | sub left right =>
          simp only [Node.levels] at enough
          have first : Finished (evaluateExpression bindings frames left) :=
            inductionHypothesis (by omega)
          have second : Finished (evaluateExpression bindings frames right) :=
            inductionHypothesis (by omega)
          refine finished_bind_iff.mpr ⟨first, fun _ _ => finished_bind_iff.mpr ⟨second, ?_⟩⟩
          exact fun _ _ => finished_liftArithmetic _
      | div left right =>
          simp only [Node.levels] at enough
          have first : Finished (evaluateExpression bindings frames left) :=
            inductionHypothesis (by omega)
          have second : Finished (evaluateExpression bindings frames right) :=
            inductionHypothesis (by omega)
          refine finished_bind_iff.mpr ⟨second, fun divisor _ => ?_⟩
          dsimp only
          split
          · exact finished_error.mpr rfl
          · refine finished_bind_iff.mpr ⟨first, fun _ _ => finished_liftArithmetic _⟩
      | const value | var name => exact finished_ok _
      | _ => exact finished_error.mpr rfl

theorem evaluateComparison_finished (bindings : Bindings) {frames : Nat} {node : Node}
    (enough : node.comparisonLevels ≤ frames) :
    Finished (evaluateComparison bindings frames node) := by
  cases node with
  | eq left right =>
      simp only [Node.comparisonLevels] at enough
      have first : Finished (evaluateExpression bindings frames left) :=
        evaluateExpression_finished bindings (by omega)
      have second : Finished (evaluateExpression bindings frames right) :=
        evaluateExpression_finished bindings (by omega)
      refine finished_bind_iff.mpr ⟨first, fun _ _ => finished_bind_iff.mpr ⟨second, ?_⟩⟩
      exact fun _ _ => finished_ok _
  | _ => exact finished_error.mpr rfl

theorem arguments_finished (bindings : Bindings) {frames : Nat} {args : List Node}
    (enough : Node.argumentLevels args ≤ frames) :
    Finished (args.mapM (evaluateExpression bindings frames)) := by
  induction args with
  | nil => exact finished_ok _
  | cons arg rest inductionHypothesis =>
      simp only [Node.argumentLevels] at enough
      have first : Finished (evaluateExpression bindings frames arg) :=
        evaluateExpression_finished bindings (by omega)
      have others := inductionHypothesis (by omega)
      rw [List.mapM_cons]
      refine finished_bind_iff.mpr ⟨first, fun _ _ => finished_bind_iff.mpr ⟨others, ?_⟩⟩
      exact fun _ _ => finished_ok _

theorem repeatCount_finished (limits : Limits) (value : Number) (node : Node) :
    Finished (repeatCount limits value node) := by
  rw [repeatCount]
  split
  · exact finished_ok _
  · split
    · refine finished_bind_iff.mpr ⟨finished_liftArithmetic _, fun _ _ => ?_⟩
      refine finished_bind_iff.mpr ⟨finished_liftArithmetic _, fun _ _ => ?_⟩
      exact finished_error.mpr rfl
    · exact finished_ok _
  · exact finished_error.mpr rfl

theorem prepareCall_finished (limits : Limits) {frames : Nat} (depth : Nat) (name : String)
    {args : List Node} (node : Node) (state : State)
    (enough : Node.argumentLevels args ≤ frames) :
    Finished (prepareCall limits frames depth name args node state) := by
  rw [prepareCall]
  split
  · exact finished_error.mpr rfl
  · split
    · exact finished_error.mpr (isShortage_callRefusal ..)
    · exact finished_bind_iff.mpr ⟨arguments_finished state.bindings enough, fun _ _ =>
        finished_ok _⟩

/-- A statement that is refused within its frames is refused for another cause. -/
theorem Refuses.isShortage_eq_false {limits : Limits} {frames depth called : Nat} {node : Node}
    {state : State} {failure : Failure} (refused : Refuses limits frames depth node state failure)
    (enough : node.frames called ≤ frames + 1) : failure.isShortage = false := by
  simp only [Node.frames] at enough
  cases refused with
  | forward failed | setHeading failed =>
      simp only [Node.entryFrames, Node.spineFrames] at enough
      exact evaluateExpression_finished _ (by omega) _ failed
  | rotate failed =>
      simp only [Node.entryFrames, Node.spineFrames] at enough
      refine finished_bind_iff.mpr ⟨evaluateExpression_finished _ (by omega), ?_⟩ _ failed
      intro value _
      exact finished_bind_iff.mpr ⟨finished_liftArithmetic _, fun _ _ => finished_ok _⟩
  | loop failed =>
      simp only [Node.entryFrames, Node.spineFrames] at enough
      refine finished_bind_iff.mpr ⟨evaluateExpression_finished _ (by omega), ?_⟩ _ failed
      exact fun value _ => repeatCount_finished _ value _
  | branch failed =>
      simp only [Node.entryFrames, Node.spineFrames] at enough
      exact evaluateComparison_finished _ (by omega) _ failed
  | call failed =>
      simp only [Node.entryFrames, Node.spineFrames] at enough
      exact prepareCall_finished _ _ _ _ _ (by omega) _ failed
  | unknown _ => rfl
  | outOfFrames compound =>
      -- A compound statement has at least two frames, and here it would have one.
      have positive := node.spineFrames_pos called
      cases node with
      | seq _ _ | loop _ _ | branch _ _ | call _ _ =>
          simp only [Node.entryFrames, Node.spineFrames] at enough positive
          omega
      | _ => exact compound.elim

/-- An evaluation with room for all calls that its limit admits never runs out of frames. -/
theorem Evaluates.finished {limits : Limits} {frames depth : Nat} {task : Task} {state : State}
    {events : List Event} {result : Except Failure State} {bodies : List Node}
    (run : Evaluates limits frames depth task state events result)
    (included : task.bodies ⊆ bodies) (within : state.procedures.Within bodies)
    (enough : task.frames (room Node.frames bodies (limits.callsLeft depth)) ≤ frames) :
    Finished result := by
  induction run with
  | outOfFrames => exact absurd enough (Nat.not_le.mpr (Node.frames_pos _ _))
  | refuses refused => exact finished_error.mpr (refused.isShortage_eq_false enough)
  | blocked _ failed =>
      rcases failed with ⟨error, rfl⟩ | ⟨error, rfl⟩
      · exact finished_error.mpr rfl
      · exact finished_error.mpr rfl
  | moves _ _ | rotates _ _ | heads _ | defines | stops | skips _ | done => exact finished_ok _
  | sequence _ inductionHypothesis =>
      refine inductionHypothesis included within ?_
      simp only [Task.frames, Node.frames, Node.entryFrames] at enough ⊢
      omega
  | repeats _ _ _ inductionHypothesis | branches _ _ inductionHypothesis =>
      refine inductionHypothesis included within ?_
      simp only [Task.frames, Node.frames, Node.entryFrames, Node.spineFrames] at enough ⊢
      omega
  | calls prepared _ inductionHypothesis =>
      obtain ⟨below, member, inner, seen⟩ := prepareCall_within prepared within
      refine finished_callResult.mpr (inductionHypothesis inner seen ?_)
      -- The called body fits into what the caller keeps for its calls.
      have called := measure_le_room Node.frames below member
      simp only [Task.frames, Node.frames, Node.entryFrames, Node.spineFrames] at enough called ⊢
      omega
  | @last _ _ node _ _ _ single _ inductionHypothesis =>
      refine inductionHypothesis included within ?_
      have entry : node.entryFrames = 0 := by
        cases node with
        | seq first second => exact absurd rfl (single first second)
        | _ => rfl
      simpa only [Task.frames, Node.frames, entry, Nat.zero_add] using enough
  | spineHalts _ _ inductionHypothesis =>
      refine inductionHypothesis (List.append_subset.mp included).1 within ?_
      simp only [Task.frames, Node.frames, Node.spineFrames] at enough ⊢
      omega
  | spineGoesOn first _ _ _ restHypothesis =>
      obtain ⟨before, behind⟩ := List.append_subset.mp included
      refine restHypothesis behind (first.within before within rfl) ?_
      simp only [Task.frames, Node.spineFrames] at enough ⊢
      omega
  | roundHalts _ _ inductionHypothesis => exact inductionHypothesis included within enough
  | roundGoesOn first _ _ _ restHypothesis =>
      exact restHypothesis included (first.within included within rfl) enough

/-- From some number of frames on, a statement does not run out of them. -/
theorem evaluate_finished (limits : Limits) (depth : Nat) (node : Node) (state : State) :
    ∃ enough, ∀ frames, enough ≤ frames → ∀ progress,
      Finished (evaluate limits frames depth node state progress).1 := by
  let bodies := node.bodies ++ state.procedures.bodies
  have included : node.bodies ⊆ bodies := List.subset_append_left _ _
  have within : state.procedures.Within bodies :=
    Procedures.within_of_subset (List.subset_append_right _ _)
  refine ⟨node.frames (room Node.frames bodies (limits.callsLeft depth)), ?_⟩
  intro frames enough progress
  obtain ⟨events, run, -⟩ := evaluate_logs limits frames depth node state progress
  exact run.finished included within enough

end Turtle
