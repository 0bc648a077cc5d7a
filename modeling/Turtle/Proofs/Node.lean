import Turtle.Node.Basic
import Turtle.Proofs.Fallible

/-
This file unfolds the comparison of trees by one level, says what a walk over a tree gives, and
builds sequences.
-/

namespace Turtle.Node

section

variable {left right left' right' first second first' second' body body' operand operand' : Node}
  {value value' : Number} {name name' : String} {params params' : List String}
  {args args' : List Node}

@[simp]
theorem same_const : (const value).same (const value') = value.equals value' :=
  rfl

@[simp]
theorem same_var : (var name).same (var name') = (name == name') :=
  rfl

@[simp]
theorem same_sub :
    (sub left right).same (sub left' right') = (left.same left' && right.same right') :=
  rfl

@[simp]
theorem same_div :
    (div left right).same (div left' right') = (left.same left' && right.same right') :=
  rfl

@[simp]
theorem same_eq :
    (eq left right).same (eq left' right') = (left.same left' && right.same right') :=
  rfl

@[simp]
theorem same_forward : (forward operand).same (forward operand') = operand.same operand' :=
  rfl

@[simp]
theorem same_rotate : (rotate operand).same (rotate operand') = operand.same operand' :=
  rfl

@[simp]
theorem same_setHeading :
    (setHeading operand).same (setHeading operand') = operand.same operand' :=
  rfl

@[simp]
theorem same_seq :
    (seq first second).same (seq first' second') = (first.same first' && second.same second') :=
  rfl

@[simp]
theorem same_loop :
    (loop operand body).same (loop operand' body') = (operand.same operand' && body.same body') :=
  rfl

@[simp]
theorem same_define :
    (define name params body).same (define name' params' body') =
      (name == name' && params == params' && body.same body') :=
  rfl

@[simp]
theorem same_call :
    (call name args).same (call name' args') = (name == name' && sameAll args args') :=
  rfl

@[simp]
theorem same_branch :
    (branch operand body).same (branch operand' body') =
      (operand.same operand' && body.same body') :=
  rfl

@[simp]
theorem same_stop : stop.same stop = true :=
  rfl

@[simp]
theorem sameAll_nil : sameAll [] [] = true :=
  rfl

@[simp]
theorem sameAll_cons :
    sameAll (first :: args) (second :: args') = (first.same second && sameAll args args') :=
  rfl

end

mutual

/-- A node occurs in a tree before what occurs in its parts, and the parts stand in order. -/
def occurrences : Node → List Node
  | .const value => [.const value]
  | .var name => [.var name]
  | .sub left right => .sub left right :: (occurrences left ++ occurrences right)
  | .div left right => .div left right :: (occurrences left ++ occurrences right)
  | .eq left right => .eq left right :: (occurrences left ++ occurrences right)
  | .forward pixels => .forward pixels :: occurrences pixels
  | .rotate degrees => .rotate degrees :: occurrences degrees
  | .setHeading degrees => .setHeading degrees :: occurrences degrees
  | .seq first second => .seq first second :: (occurrences first ++ occurrences second)
  | .loop times body => .loop times body :: (occurrences times ++ occurrences body)
  | .define name params body => .define name params body :: occurrences body
  | .call name args => .call name args :: occurrencesAll args
  | .branch condition body => .branch condition body :: (occurrences condition ++ occurrences body)
  | .stop => [.stop]

def occurrencesAll : List Node → List Node
  | [] => []
  | node :: rest => occurrences node ++ occurrencesAll rest

end

theorem occurrencesAll_eq (nodes : List Node) :
    occurrencesAll nodes = nodes.flatMap occurrences := by
  induction nodes with
  | nil => rfl
  | cons node rest inductionHypothesis =>
      rw [occurrencesAll, inductionHypothesis, List.flatMap_cons]

theorem occurrences_eq (node : Node) :
    node.occurrences = node :: node.parts.flatMap occurrences := by
  cases node <;> simp [occurrences, parts, occurrencesAll_eq]

theorem height_eq (node : Node) : node.height = heightAll node.parts + 1 := by
  cases node <;> simp [height, parts, heightAll, Nat.add_comm]

theorem heightAll_le_iff {nodes : List Node} {bound : Nat} :
    heightAll nodes ≤ bound ↔ ∀ node ∈ nodes, node.height ≤ bound := by
  induction nodes with
  | nil => simp [heightAll]
  | cons node rest inductionHypothesis =>
      rw [heightAll, Nat.max_le, inductionHypothesis, List.forall_mem_cons]

theorem height_le_iff {node : Node} {bound : Nat} :
    node.height ≤ bound + 1 ↔ ∀ part ∈ node.parts, part.height ≤ bound := by
  rw [height_eq, Nat.add_le_add_iff_right, heightAll_le_iff]

/-- The walk gives all that occurs in a tree, when the frames are enough for its height. -/
theorem walk_eq (node : Node) (frames : Nat) :
    node.walk frames = if node.height ≤ frames then some node.occurrences else none := by
  induction frames generalizing node with
  | zero => rw [walk, if_neg (by rw [height_eq]; omega)]
  | succ frames inductionHypothesis =>
      rw [walk, funext inductionHypothesis, Fallible.mapM_guarded]
      by_cases fits : ∀ part ∈ node.parts, part.height ≤ frames
      · rw [if_pos fits, if_pos (height_le_iff.mpr fits), occurrences_eq, List.flatMap_def]
        rfl
      · rw [if_neg fits, if_neg fun enough => fits (height_le_iff.mp enough)]
        rfl

theorem exists_sequenceOf? {statements : List Node} (nonempty : statements ≠ []) :
    ∃ node, sequenceOf? statements = some node := by
  fun_induction sequenceOf? statements with
  | case1 => exact absurd rfl nonempty
  | case2 statement => exact ⟨statement, rfl⟩
  | case3 statement rest more inductionHypothesis =>
      obtain ⟨tail, found⟩ := inductionHypothesis more
      exact ⟨.seq statement tail, by rw [found]; rfl⟩

end Turtle.Node
