import Turtle.Proofs.Grammar.Acceptance
import Turtle.Run

/-
This file tries the alternatives of a statement in another order. The next token selects at most
one alternative, so every order gives the same replies, at every depth.
-/

namespace Turtle

namespace Parser

variable {ε α : Type}

/-- Where no two alternatives apply, a choice replies the same in every order. -/
theorem choice_perm {parsers others : List (Parser ε α)} {input : Cursor}
    (exclusive : parsers.Pairwise fun first second =>
      first input = .unmatched ∨ second input = .unmatched)
    (permuted : others.Perm parsers) : choice others input = choice parsers input := by
  have exclusiveOthers : others.Pairwise fun first second =>
      first input = .unmatched ∨ second input = .unmatched :=
    (permuted.pairwise_iff Or.symm).mpr exclusive
  by_cases applies : ∃ parser ∈ parsers, parser input ≠ .unmatched
  · obtain ⟨parser, member, applies⟩ := applies
    rw [choice_of_exclusive exclusive member applies,
      choice_of_exclusive exclusiveOthers (permuted.mem_iff.mpr member) applies]
  · have missing : ∀ parser ∈ parsers, parser input = .unmatched := by
      intro parser member
      by_contra applied
      exact applies ⟨parser, member, applied⟩
    rw [choice_unmatched missing]
    apply choice_unmatched
    intro parser member
    exact missing parser (permuted.mem_iff.mp member)

end Parser

namespace Rule

open Turtle.Parser

/-- The statement rule with a list of alternatives for each rule of the statements inside it. The
statements inside are read by the same list, one level less deep. -/
def statementFrom (choices : Rule Node → List (Rule Node)) : Nat → Rule Node
  | 0 => abort .nestedTooDeep
  | depth + 1 => choice (choices (statementFrom choices depth))

def statementsFrom (choices : Rule Node → List (Rule Node)) (levels : Nat) : Rule Node :=
  statementsOf (statementFrom choices levels)

def programFrom (choices : Rule Node → List (Rule Node)) (levels : Nat) : Rule Node :=
  atEnd do
    let _ ← spaces
    statementsFrom choices levels

variable {choices : Rule Node → List (Rule Node)}

/-- A statement does not depend on the order of the alternatives, neither here nor inside. -/
theorem statementFrom_eq (permuted : ∀ inner, (choices inner).Perm (alternatives inner))
    (depth : Nat) : statementFrom choices depth = statement depth := by
  induction depth with
  | zero => rfl
  | succ depth inductionHypothesis =>
      funext input
      rw [statementFrom, inductionHypothesis, ← input.ofList_chars]
      exact choice_perm (alternatives_exclusive (statement depth) input.chars)
        (permuted (statement depth))

end Rule

/-- The order of the alternatives of a statement does not matter. If the alternatives are permuted,
in the statements inside loops, procedures, branches and blocks as well, then a statement, a run of
statements and a program have the same reply on every text. At most one alternative applies at any
place of any text. -/
theorem alternatives_order_irrelevant (choices : Rule Node → List (Rule Node))
    (permuted : ∀ inner, (choices inner).Perm (Rule.alternatives inner)) :
    (∀ levels, Rule.statementFrom choices levels = Rule.statement levels ∧
      Rule.statementsFrom choices levels = Rule.statements levels ∧
      Rule.programFrom choices levels = Rule.program levels) ∧
      ∀ inner text, (choices inner).Pairwise fun first second =>
        first (.ofList text) = .unmatched ∨ second (.ofList text) = .unmatched := by
  constructor
  · intro levels
    have same := Rule.statementFrom_eq permuted levels
    have statements : Rule.statementsFrom choices levels = Rule.statements levels := by
      rw [Rule.statementsFrom, same, Rule.statements]
    exact ⟨same, statements, by rw [Rule.programFrom, statements, Rule.program]⟩
  · intro inner text
    exact ((permuted inner).pairwise_iff Or.symm).mpr (Rule.alternatives_exclusive inner text)

/-- The reversed order tries blocks and calls before all statements that begin with a word of their
own, here and inside the loop. -/
theorem alternatives_order_irrelevant_reversed :
    (∀ inner, ((Rule.alternatives inner).reverse).Perm (Rule.alternatives inner)) ∧
      Rule.programFrom (fun inner => (Rule.alternatives inner).reverse) (levelsWithin baseFrames)
          (.ofString "repeat :n box :n") =
        .matched (.loop (.var "n") (.call "box" [.var "n"])) (.ofList []) := by
  have permuted : ∀ inner, ((Rule.alternatives inner).reverse).Perm (Rule.alternatives inner) :=
    fun inner => List.reverse_perm _
  have operand := Token.spells_reference (by decide : Text.isWord "n" = true)
  have header := (Token.spells_word (by decide : Text.isWord "repeat" = true)).blank operand
  have body := (Token.spells_word (by decide : Text.isWord "box" = true)).blank operand
  let count : Derivation.Expression := ⟨⟨.reference "n", []⟩, []⟩
  let statements : Derivation.Statements := .last (.loop count (.call ⟨"box", by decide⟩ [count]))
  refine ⟨permuted, ?_⟩
  rw [((alternatives_order_irrelevant _ permuted).1 _).2.2]
  exact @Rule.program_of_spells _ _ statements (header.blank body) (by decide)

end Turtle
