import Turtle.Proofs.Grammar.Acceptance
import Turtle.Proofs.Source.Statement
import Turtle.Run

/-
This file shows that reading the text of a tree gives back the same tree.
-/

namespace Turtle

namespace Program

/-- A text that spells a derivation within the limit is read as the tree of the derivation. -/
theorem read_of_derivation {levels : Nat} {statements : Derivation.Statements} {text : String}
    (spells : Token.Spells text statements.tokens) (within : statements.nesting ≤ levels)
    (filename : String) : read levels text filename = .ok statements.node := by
  have matched := Rule.program_of_spells spells within
  rw [Cursor.ofString] at matched
  rw [read, readChars, matched]

/-- A text that spells statements within the limit is read as their tree. -/
theorem read_of_spells {node : Node} {text : String} {levels depth : Nat}
    (spells : node.SpellsStatements text depth) (within : depth ≤ levels)
    (filename : String) :
    ∃ found, read levels text filename = .ok found ∧ found.same node = true := by
  obtain ⟨statements, spells, nested, same⟩ := spells
  exact ⟨statements.node, read_of_derivation spells (nested.trans within) filename, same⟩

theorem readExpression_of_source {node : Node} {frames : Nat} {text : String}
    (typed : node.isExpression = true) (written : node.expressionSource frames = .ok text)
    (filename : String) :
    ∃ found, readExpression text filename = .ok found ∧ found.same node = true := by
  obtain ⟨expression, spells, same⟩ := Node.expression_spells typed written
  exact ⟨_, by rw [readExpression, Rule.wholeExpression_of_spells spells], same⟩

end Program

/-- Reading undoes writing: the text of a statement tree within the levels of nesting is read as the
same tree, and so is the text of an expression. The frames with which the text was written do not
matter. -/
theorem read_source_same (filename : String) :
    (∀ (levels frames : Nat) (node : Node) (text : String), node.isStatement = true →
      node.nesting ≤ levels → node.source frames = .ok text →
      ∃ found, Program.read levels text filename = .ok found ∧ found.same node = true) ∧
    (∀ (frames : Nat) (node : Node) (text : String), node.isExpression = true →
      node.expressionSource frames = .ok text →
      ∃ found, Program.readExpression text filename = .ok found ∧ found.same node = true) := by
  constructor
  · intro levels frames node text typed within written
    exact Program.read_of_spells (Node.source_spells typed written).1 within filename
  · intro frames node text typed written
    exact Program.readExpression_of_source typed written filename

/-- A sequence nested to the left stands in brackets, and so does a sequence that is repeated. -/
def nestedTree : Node :=
  .seq (.seq (.forward (.sub (.const (.whole 9)) (.div (.var "x") (.const (.whole 2)))))
      (.call "box" [.var "x", .const (.real (Float.ofBits 0x4000000000000000))]))
    (.loop (.const (.whole 3)) (.seq .stop (.define "box" ["x"] .stop)))

theorem read_source_same_nestedTree :
    nestedTree.isStatement = true ∧ nestedTree.nesting ≤ levelsWithin baseFrames ∧
      nestedTree.source baseFrames =
        .ok "[fd 9 - :x / 2 box :x 2] repeat 3 [stop to box :x stop end]" ∧
      ∃ found, Program.read (levelsWithin baseFrames)
        "[fd 9 - :x / 2 box :x 2] repeat 3 [stop to box :x stop end]" "box.txt" = .ok found ∧
        found.same nestedTree = true := by
  have typed : nestedTree.isStatement = true := by decide +kernel
  have within : nestedTree.nesting ≤ levelsWithin baseFrames := by decide +kernel
  have written : nestedTree.source baseFrames =
      .ok "[fd 9 - :x / 2 box :x 2] repeat 3 [stop to box :x stop end]" := by rfl
  exact ⟨typed, within, written,
    (read_source_same "box.txt").1 _ baseFrames nestedTree _ typed within written⟩

end Turtle
