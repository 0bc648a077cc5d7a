import Turtle.Proofs.Outline.Flat

/-
This file counts the frames that an outline takes. A tree has its outline when the frames are
enough, whatever the indent, and the lines of the outline are those of the rows of the flat tree.
-/

namespace Turtle.Node

/-- The frames that the statements of nested sequences take: one, and one more for each sequence in
front of another statement. -/
def flattenFrames : Node → Nat
  | .seq first second => max (flattenFrames first + 1) (flattenFrames second)
  | _ => 1

theorem flattenWithin_eq (node : Node) (frames : Nat) :
    node.flattenWithin frames =
      if node.flattenFrames ≤ frames then some node.flatten else none := by
  induction node using part_induction generalizing frames with
  | step node inductionHypothesis =>
      cases node with
      | seq first second =>
          cases frames with
          | zero => exact (if_neg (by simp [flattenFrames])).symm
          | succ frames =>
              rw [flattenWithin, inductionHypothesis first (by simp [parts]),
                inductionHypothesis second (by simp [parts])]
              simp only [flattenFrames, Nat.max_le, Nat.add_le_add_iff_right, flatten]
              by_cases front : first.flattenFrames ≤ frames
              · by_cases back : second.flattenFrames ≤ frames + 1 <;> simp [front, back]
              · simp [front]
      | _ => cases frames <;> simp [flattenWithin, flattenFrames, flatten]

/-- A sequence takes two frames more than its statements, or than it takes to find them. -/
def sequenceFrames (node : Node) (statements : Nat) : Nat :=
  match node with
  | .seq _ _ => max node.flattenFrames statements + 2
  | _ => statements

mutual

/-- The frames that the lines of the statements in a node take. -/
def lineFrames : Node → Nat
  | .const _ | .var _ | .stop => 1
  | .sub left right | .div left right | .eq left right =>
      max (left.sequenceFrames (lineFrames left)) (right.sequenceFrames (lineFrames right)) + 1
  | .forward operand | .rotate operand | .setHeading operand =>
      operand.sequenceFrames (lineFrames operand) + 1
  | .seq first second => max (lineFrames first) (lineFrames second)
  | .loop times body =>
      max (times.sequenceFrames (lineFrames times)) (body.sequenceFrames (lineFrames body)) + 1
  | .define _ _ body => body.sequenceFrames (lineFrames body) + 1
  | .call _ args => lineFramesAll args + 1
  | .branch condition body =>
      max (condition.sequenceFrames (lineFrames condition))
        (body.sequenceFrames (lineFrames body)) + 1

def lineFramesAll : List Node → Nat
  | [] => 0
  | node :: rest => max (node.sequenceFrames (lineFrames node)) (lineFramesAll rest)

end

/-- The frames that an outline takes. -/
def outlineFrames (node : Node) : Nat :=
  node.sequenceFrames node.lineFrames

theorem lineFramesAll_le_iff {nodes : List Node} {bound : Nat} :
    lineFramesAll nodes ≤ bound ↔ ∀ node ∈ nodes, node.outlineFrames ≤ bound := by
  induction nodes with
  | nil => simp [lineFramesAll]
  | cons node rest inductionHypothesis =>
      rw [lineFramesAll, Nat.max_le, inductionHypothesis, List.forall_mem_cons, outlineFrames]

/-- A node that is no sequence takes one frame more than its parts. -/
theorem outlineFrames_of_apart {node : Node} (apart : node.kind ≠ .seq) :
    node.outlineFrames = lineFramesAll node.parts + 1 := by
  cases node with
  | seq first second => exact absurd rfl apart
  | _ => simp [outlineFrames, sequenceFrames, lineFrames, parts, lineFramesAll]

theorem outlineFrames_le_iff {node : Node} (apart : node.kind ≠ .seq) {bound : Nat} :
    node.outlineFrames ≤ bound + 1 ↔ ∀ part ∈ node.parts, part.outlineFrames ≤ bound := by
  rw [outlineFrames_of_apart apart, Nat.add_le_add_iff_right, lineFramesAll_le_iff]

theorem lineFrames_le_iff {node : Node} {bound : Nat} :
    node.lineFrames ≤ bound ↔ ∀ statement ∈ node.flatten, statement.outlineFrames ≤ bound := by
  induction node using part_induction with
  | step node inductionHypothesis =>
      cases node with
      | seq first second =>
          rw [lineFrames, Nat.max_le, inductionHypothesis first (by simp [parts]),
            inductionHypothesis second (by simp [parts]), flatten, List.forall_mem_append]
      | _ => simp [flatten, outlineFrames, sequenceFrames]

theorem outlineFrames_seq_le_iff {first second : Node} {bound : Nat} :
    (seq first second).outlineFrames ≤ bound + 2 ↔
      (seq first second).flattenFrames ≤ bound ∧
        ∀ statement ∈ (seq first second).flatten, statement.outlineFrames ≤ bound := by
  rw [outlineFrames, sequenceFrames, Nat.add_le_add_iff_right, Nat.max_le, lineFrames_le_iff]

theorem outlineLines_of_apart {node : Node} (apart : node.kind ≠ .seq) (frames : Nat)
    (indent : Int) :
    node.outlineLines (frames + 1) indent =
      (node.parts.mapM (outlineLines · frames (indent + 1))).map fun below =>
        outlineLine indent node.head.text :: below.flatten := by
  cases node with
  | seq first second => exact absurd rfl apart
  | const | var => rfl
  | _ =>
      rw [Option.map_eq_bind]
      rfl

/-- The lines of a node that stands at a depth, with the indent of the whole outline. -/
def linesAt (indent : Int) (depth : Nat) (node : Node) : List String :=
  (node.flat.flatMap (Flat.rows depth)).map fun row => outlineLine (indent + row.1) row.2.text

theorem linesAt_of_apart {node : Node} (apart : node.kind ≠ .seq) (indent : Int) (depth : Nat) :
    node.linesAt indent depth =
      outlineLine (indent + depth) node.head.text ::
        node.parts.flatMap (linesAt indent (depth + 1)) := by
  rw [linesAt, flat_eq, if_neg apart, List.flatMap_singleton, Flat.rows_mk, List.map_cons,
    ← List.flatMap_def, List.flatMap_assoc, List.map_flatMap]
  rfl

theorem linesAt_flatten (node : Node) (indent : Int) (depth : Nat) :
    node.linesAt indent depth = node.flatten.flatMap (linesAt indent depth) := by
  rw [linesAt, ← flat_flatten, List.flatMap_assoc, List.map_flatMap]
  rfl

/-- A tree has the lines of its rows when the frames are enough for its outline. -/
theorem outlineLines_eq (node : Node) (frames : Nat) (indent : Int) (depth : Nat) :
    node.outlineLines frames (indent + depth) =
      if node.outlineFrames ≤ frames then some (node.linesAt indent depth) else none := by
  induction frames using Nat.strongRecOn generalizing node depth with
  | ind frames inductionHypothesis =>
    by_cases sequence : node.kind = .seq
    · obtain ⟨first, second, rfl⟩ : ∃ first second, node = .seq first second := by
        cases node <;> simp_all [kind]
      rcases frames with _ | _ | frames
      case zero => exact (if_neg (by simp [outlineFrames, sequenceFrames])).symm
      case succ.zero => exact (if_neg (by simp [outlineFrames, sequenceFrames])).symm
      case succ.succ =>
          have each (statement : Node) := inductionHypothesis frames (by omega) statement depth
          rw [outlineLines, flattenWithin_eq, funext each]
          by_cases found : (seq first second).flattenFrames ≤ frames
          · rw [if_pos found, Option.bind_eq_bind, Option.bind_some, Fallible.mapM_guarded]
            by_cases shown : ∀ statement ∈ (seq first second).flatten,
                statement.outlineFrames ≤ frames
            · rw [if_pos shown, if_pos (outlineFrames_seq_le_iff.mpr ⟨found, shown⟩),
                linesAt_flatten, List.flatMap_def]
              rfl
            · rw [if_neg shown, if_neg fun both => shown (outlineFrames_seq_le_iff.mp both).2]
              rfl
          · rw [if_neg found, if_neg fun both => found (outlineFrames_seq_le_iff.mp both).1]
            rfl
    · cases frames with
      | zero => exact (if_neg (by rw [outlineFrames_of_apart sequence]; omega)).symm
      | succ frames =>
          have each (part : Node) : part.outlineLines frames (indent + depth + 1) =
              if part.outlineFrames ≤ frames then some (part.linesAt indent (depth + 1))
              else none := by
            rw [Int.add_assoc]
            exact inductionHypothesis frames (Nat.lt_succ_self frames) part (depth + 1)
          rw [outlineLines_of_apart sequence, funext each, Fallible.mapM_guarded]
          by_cases shown : ∀ part ∈ node.parts, part.outlineFrames ≤ frames
          · rw [if_pos shown, if_pos ((outlineFrames_le_iff sequence).mpr shown),
              linesAt_of_apart sequence, List.flatMap_def]
            rfl
          · rw [if_neg shown, if_neg fun both => shown ((outlineFrames_le_iff sequence).mp both)]
            rfl

/-- The frames do not depend on the indent, and the lines do not depend on the frames. -/
theorem outline_eq_some_iff {node : Node} {frames : Nat} {indent : Int} {text : String} :
    node.outline frames indent = some text ↔
      node.outlineFrames ≤ frames ∧
        text = String.join ((node.linesAt indent 0).map (· ++ "\n")) := by
  have lines := outlineLines_eq node frames indent 0
  rw [Nat.cast_zero, Int.add_zero] at lines
  rw [outline, lines]
  by_cases enough : node.outlineFrames ≤ frames
  · rw [if_pos enough]
    simp [enough, eq_comm]
  · rw [if_neg enough]
    simp [enough]

theorem outline_eq_none_iff {node : Node} {frames : Nat} {indent : Int} :
    node.outline frames indent = none ↔ frames < node.outlineFrames := by
  rw [Option.eq_none_iff_forall_ne_some, ← Nat.not_le]
  constructor
  · intro missing enough
    exact missing _ (outline_eq_some_iff.mpr ⟨enough, rfl⟩)
  · intro short text shown
    exact short (outline_eq_some_iff.mp shown).1

end Turtle.Node
