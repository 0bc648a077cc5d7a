import Turtle.Node.Outline
import Turtle.Proofs.Node
import Turtle.Proofs.Spelling

/-
This file flattens the sequences of a tree at every level and writes the flat trees out row by row,
each row with its depth. The rows determine the flat trees as long as every node has the parts that
its kind calls for, because what stands below a row is the longest run of deeper rows behind it.
-/

namespace Turtle

/-- The head of a node is its kind together with the number, the name or the parameters in it. -/
inductive Head where
  | const (value : Number)
  | var (name : String)
  | define (name : String) (params : List String)
  | call (name : String)
  | plain (kind : Kind)

namespace Head

def kind : Head → Kind
  | .const _ => .const
  | .var _ => .var
  | .define _ _ => .define
  | .call _ => .call
  | .plain kind => kind

def text : Head → String
  | .const value => s!"Constant({value.text})"
  | .var name => s!"Variable({name})"
  | .define name params => s!"Function({name}{Node.paramsText params})"
  | .call name => s!"Call({name})"
  | .plain kind => kind.name

/-- A legible head has a natural number, or words for its name and its parameters. -/
def Legible : Head → Prop
  | .const value => ∃ number : Nat, value = .whole number
  | .var name | .call name => Text.isWord name = true
  | .define name params =>
      Text.isWord name = true ∧ ∀ param ∈ params, Text.isWord param = true
  | .plain kind => kind ∉ [Kind.const, .var, .define, .call]

end Head

/-- A flat tree has no sequences: each part of a node is the list of what stands there. -/
inductive Flat where
  | mk (head : Head) (parts : List (List Flat))

namespace Node

def head : Node → Head
  | .const value => .const value
  | .var name => .var name
  | .define name params _ => .define name params
  | .call name _ => .call name
  | node => .plain node.kind

mutual

/-- Every sequence, at every level, is replaced by the list of its statements. -/
def flat : Node → List Flat
  | .seq first second => flat first ++ flat second
  | .const value => [.mk (.const value) []]
  | .var name => [.mk (.var name) []]
  | .sub left right => [.mk (.plain .sub) [flat left, flat right]]
  | .div left right => [.mk (.plain .div) [flat left, flat right]]
  | .eq left right => [.mk (.plain .eq) [flat left, flat right]]
  | .forward pixels => [.mk (.plain .forward) [flat pixels]]
  | .rotate degrees => [.mk (.plain .rotate) [flat degrees]]
  | .setHeading degrees => [.mk (.plain .setHeading) [flat degrees]]
  | .loop times body => [.mk (.plain .loop) [flat times, flat body]]
  | .define name params body => [.mk (.define name params) [flat body]]
  | .call name args => [.mk (.call name) (flatAll args)]
  | .branch condition body => [.mk (.plain .branch) [flat condition, flat body]]
  | .stop => [.mk (.plain .stop) []]

def flatAll : List Node → List (List Flat)
  | [] => []
  | node :: rest => flat node :: flatAll rest

end

theorem flatAll_eq (nodes : List Node) : flatAll nodes = nodes.map flat := by
  induction nodes with
  | nil => rfl
  | cons node rest inductionHypothesis => rw [flatAll, inductionHypothesis, List.map_cons]

/-- A sequence gives way to its parts, and every other node keeps its head. -/
theorem flat_eq (node : Node) :
    node.flat = if node.kind = .seq then node.parts.flatMap flat
      else [.mk node.head (node.parts.map flat)] := by
  cases node <;> simp [flat, flatAll_eq, kind, head, parts]

theorem sizeOf_part {node part : Node} (member : part ∈ node.parts) :
    sizeOf part < sizeOf node := by
  cases node with
  | call name args =>
      have inside : sizeOf part < sizeOf args := List.sizeOf_lt_of_mem member
      simp only [call.sizeOf_spec]
      omega
  | _ => grind [parts]

/-- What passes from the parts of a node to the node holds of every node. -/
theorem part_induction {Property : Node → Prop}
    (step : ∀ node, (∀ part ∈ node.parts, Property part) → Property node) (node : Node) :
    Property node :=
  step node fun part member =>
    have := sizeOf_part member
    part_induction step part
termination_by sizeOf node

/-- The flat trees of a node are those of its flattened statements. -/
theorem flat_flatten (node : Node) : node.flatten.flatMap flat = node.flat := by
  induction node using part_induction with
  | step node inductionHypothesis =>
      cases node with
      | seq first second =>
          have front := inductionHypothesis first (by simp [parts])
          have back := inductionHypothesis second (by simp [parts])
          rw [flatten, List.flatMap_append, front, back, flat]
      | _ => exact List.flatMap_singleton _ _

end Node

namespace Flat

/-- A row of an outline is a head with its depth. -/
abbrev Row : Type :=
  Nat × Head

mutual

/-- The rows of a flat tree are its own and, one level deeper, those of its parts. -/
def rows (depth : Nat) : Flat → List Row
  | .mk head parts => (depth, head) :: rowsOfParts (depth + 1) parts

def rowsOfList (depth : Nat) : List Flat → List Row
  | [] => []
  | item :: rest => item.rows depth ++ rowsOfList depth rest

def rowsOfParts (depth : Nat) : List (List Flat) → List Row
  | [] => []
  | part :: rest => rowsOfList depth part ++ rowsOfParts depth rest

end

theorem rowsOfList_eq (depth : Nat) (items : List Flat) :
    rowsOfList depth items = items.flatMap (rows depth) := by
  induction items with
  | nil => rfl
  | cons item rest inductionHypothesis =>
      rw [rowsOfList, inductionHypothesis, List.flatMap_cons]

theorem rows_mk (depth : Nat) (head : Head) (parts : List (List Flat)) :
    rows depth (.mk head parts) = (depth, head) :: parts.flatten.flatMap (rows (depth + 1)) := by
  rw [rows]
  congr 1
  induction parts with
  | nil => rfl
  | cons part rest inductionHypothesis =>
      rw [rowsOfParts, rowsOfList_eq, inductionHypothesis, List.flatten_cons, List.flatMap_append]

/-- The parts of a node of this kind, given all that stands directly under it. -/
def regroup : Kind → List Flat → List (List Flat)
  | .loop, operand :: body | .branch, operand :: body => [[operand], body]
  | .define, body => [body]
  | _, operands => operands.map ([·])

/-- Every head in a shaped tree is legible and has the parts that its kind calls for. -/
inductive Shaped : Flat → Prop
  | mk {head : Head} {parts : List (List Flat)} (legible : head.Legible)
      (grouped : parts = regroup head.kind parts.flatten)
      (inside : ∀ item ∈ parts.flatten, Shaped item) : Shaped (.mk head parts)

end Flat

end Turtle
