import Turtle.Proofs.Fallible
import Turtle.Proofs.Source.Constant

/-
This file shows that the text of an expression spells a derivation of the same expression.
-/

namespace Turtle

namespace Node

/-- Expressions are built from constants, variables that are words, and operations. -/
def isExpression : Node → Bool
  | .const _ => true
  | .var name => Text.isWord name
  | .sub left right | .div left right => left.isExpression && right.isExpression
  | _ => false

end Node

open Token Turtle.Derivation

namespace Derivation.Chain

variable {α : Type}

def single (item : α) : Chain α :=
  ⟨item, []⟩

def snoc (chain : Chain α) (item : α) : Chain α :=
  ⟨chain.first, chain.others ++ [item]⟩

theorem tokens_single (sign : Char) (itemTokens : α → List Token) (item : α) :
    (single item).tokens sign itemTokens = itemTokens item := by
  simp [single, tokens]

theorem tokens_snoc (sign : Char) (itemTokens : α → List Token) (chain : Chain α) (item : α) :
    (chain.snoc item).tokens sign itemTokens =
      chain.tokens sign itemTokens ++ .symbol sign :: itemTokens item := by
  simp [snoc, tokens]

theorem node_single (build : Node → Node → Node) (itemNode : α → Node) (item : α) :
    (single item).node build itemNode = itemNode item :=
  rfl

theorem node_snoc (build : Node → Node → Node) (itemNode : α → Node) (chain : Chain α)
    (item : α) :
    (chain.snoc item).node build itemNode = build (chain.node build itemNode) (itemNode item) := by
  simp [snoc, node]

end Derivation.Chain

namespace Node

theorem expressionSource_div_ok {left right : Node} {frames : Nat} {text : String}
    (written : (Node.div left right).expressionSource frames = .ok text) :
    left.isDifference = false ∧ right.isOperation = false ∧ ∃ fewer first second,
      left.expressionSource fewer = .ok first ∧ right.expressionSource fewer = .ok second ∧
      text = first ++ " / " ++ second := by
  obtain _ | fewer := frames
  · cases written
  simp only [expressionSource] at written
  split_ifs at written with grouped
  rw [Bool.or_eq_true, not_or, Bool.not_eq_true, Bool.not_eq_true] at grouped
  obtain ⟨first, front, more⟩ := Fallible.bind_eq_ok_iff.mp written
  obtain ⟨second, back, same⟩ := Fallible.bind_eq_ok_iff.mp more
  cases same
  exact ⟨grouped.1, grouped.2, fewer, first, second, front, back, rfl⟩

theorem expressionSource_sub_ok {left right : Node} {frames : Nat} {text : String}
    (written : (Node.sub left right).expressionSource frames = .ok text) :
    right.isDifference = false ∧ ∃ fewer first second,
      left.expressionSource fewer = .ok first ∧ right.expressionSource fewer = .ok second ∧
      text = first ++ " - " ++ second := by
  obtain _ | fewer := frames
  · cases written
  simp only [expressionSource] at written
  split_ifs at written with grouped
  rw [Bool.not_eq_true] at grouped
  obtain ⟨first, front, more⟩ := Fallible.bind_eq_ok_iff.mp written
  obtain ⟨second, back, same⟩ := Fallible.bind_eq_ok_iff.mp more
  cases same
  exact ⟨grouped, fewer, first, second, front, back, rfl⟩

theorem atom_spells {node : Node} {frames : Nat} {text : String} (typed : node.isExpression = true)
    (simple : node.isOperation = false) (written : node.expressionSource frames = .ok text) :
    ∃ atom : Atom, Spells text atom.tokens ∧ atom.node.same node = true := by
  obtain _ | fewer := frames
  · rw [expressionSource] at written
    cases written
  cases node with
  | const value => exact constantSource_spells written
  | var name =>
      cases written
      exact ⟨.reference name, spells_reference typed, by simp [Atom.node]⟩
  | sub left right => cases simple
  | div left right => cases simple
  | _ => cases typed

theorem term_spells_of_atom {node : Node} {frames : Nat} {text : String}
    (typed : node.isExpression = true) (simple : node.isOperation = false)
    (written : node.expressionSource frames = .ok text) :
    ∃ term : Term, Spells text (termTokens term) ∧ (termNode term).same node = true := by
  obtain ⟨atom, spells, same⟩ := atom_spells typed simple written
  exact ⟨.single atom, by rwa [termTokens, Chain.tokens_single], same⟩

/-- Division groups to the left, so its right operand is an atom. -/
theorem term_spells {node : Node} {frames : Nat} {text : String} (typed : node.isExpression = true)
    (simple : node.isDifference = false) (written : node.expressionSource frames = .ok text) :
    ∃ term : Term, Spells text (termTokens term) ∧ (termNode term).same node = true := by
  fun_induction isExpression node generalizing frames text with
  | case1 value => exact term_spells_of_atom rfl rfl written
  | case2 name => exact term_spells_of_atom typed rfl written
  | case3 left right => cases simple
  | case4 left right leftHypothesis _ =>
      rw [Bool.and_eq_true] at typed
      obtain ⟨plain, lone, fewer, first, second, front, back, rfl⟩ :=
        expressionSource_div_ok written
      obtain ⟨term, head, sameLeft⟩ := leftHypothesis typed.1 plain front
      obtain ⟨atom, tail, sameRight⟩ := atom_spells typed.2 lone back
      refine ⟨term.snoc atom, ?_, ?_⟩
      · rw [termTokens, Chain.tokens_snoc]
        exact head.operator '/' rfl (by decide) tail
      · rw [termNode, Chain.node_snoc]
        simpa using ⟨sameLeft, sameRight⟩
  | case5 => cases typed

theorem expression_spells_of_term {node : Node} {frames : Nat} {text : String}
    (typed : node.isExpression = true) (simple : node.isDifference = false)
    (written : node.expressionSource frames = .ok text) :
    ∃ expression : Expression, Spells text (expressionTokens expression) ∧
      (expressionNode expression).same node = true := by
  obtain ⟨term, spells, same⟩ := term_spells typed simple written
  exact ⟨.single term, by rwa [expressionTokens, Chain.tokens_single], same⟩

/-- The text of an expression spells an expression with the same tree. -/
theorem expression_spells {node : Node} {frames : Nat} {text : String}
    (typed : node.isExpression = true) (written : node.expressionSource frames = .ok text) :
    ∃ expression : Expression, Spells text (expressionTokens expression) ∧
      (expressionNode expression).same node = true := by
  fun_induction isExpression node generalizing frames text with
  | case1 value => exact expression_spells_of_term rfl rfl written
  | case2 name => exact expression_spells_of_term typed rfl written
  | case3 left right leftHypothesis _ =>
      rw [Bool.and_eq_true] at typed
      obtain ⟨plain, fewer, first, second, front, back, rfl⟩ := expressionSource_sub_ok written
      obtain ⟨expression, head, sameLeft⟩ := leftHypothesis typed.1 front
      obtain ⟨term, tail, sameRight⟩ := term_spells typed.2 plain back
      refine ⟨expression.snoc term, ?_, ?_⟩
      · rw [expressionTokens, Chain.tokens_snoc]
        exact head.operator '-' rfl (by decide) tail
      · rw [expressionNode, Chain.node_snoc]
        simpa using ⟨sameLeft, sameRight⟩
  | case4 left right => exact expression_spells_of_term typed rfl written
  | case5 => cases typed

theorem expressions_spell {nodes : List Node} {frames : Nat} {texts : List String}
    (typed : nodes.all isExpression = true)
    (written : nodes.mapM (expressionSource · frames) = .ok texts) :
    ∃ expressions : List Expression,
      List.Forall₂ Spells texts (expressions.map expressionTokens) ∧
      sameAll (expressions.map expressionNode) nodes = true := by
  induction nodes generalizing texts with
  | nil =>
      cases written
      exact ⟨[], .nil, by simp⟩
  | cons node rest inductionHypothesis =>
      rw [List.all_cons, Bool.and_eq_true] at typed
      obtain ⟨text, others, front, back, rfl⟩ := Fallible.mapM_cons_eq_ok_iff.mp written
      obtain ⟨expression, spells, sameFirst⟩ := expression_spells typed.1 front
      obtain ⟨expressions, spell, sameRest⟩ := inductionHypothesis typed.2 back
      exact ⟨expression :: expressions, .cons spells spell, by simp [sameFirst, sameRest]⟩

end Node

end Turtle
