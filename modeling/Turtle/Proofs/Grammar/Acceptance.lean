import Turtle.Proofs.Grammar.Completeness
import Turtle.Proofs.Spelling

/-
This file shows that the program rule accepts exactly the texts whose tokens are derived by the
grammar, and returns the tree of the derivation.
-/

namespace Turtle

open Token Turtle.Derivation

namespace Rule

open Turtle.Parser

theorem statementsOf_takes {inner : Rule Node} {statements : Statements}
    {extending : Token → Bool}
    (takes : Takes (many inner) statements.tokens statements.nodes extending) :
    Takes (statementsOf inner) statements.tokens statements.node extending := by
  intro text rest reads avoids
  simp [statementsOf, binaryRight, refine, takes reads avoids, statements.foldRight?_nodes]

theorem many_statement_cons {depth : Nat} {statement : Statement} {text middle : List Char}
    (first : Rule.statement depth (.ofList text) = .matched statement.node (.ofList middle))
    (reads : Reads text statement.tokens middle) :
    many (Rule.statement depth) (.ofList text) =
      (many (Rule.statement depth) (.ofList middle)).map (statement.node :: ·) := by
  have consumes : middle.length < text.length := by
    obtain ⟨token, more, begins, -⟩ := statement.tokens_starts
    have shorter := reads.length_le
    rw [begins, List.length_cons] at shorter
    omega
  exact many_of_matched first consumes

mutual

/-- Every derivation of a statement within the depth is matched. -/
theorem statement_takes (statement : Statement) {depth : Nat}
    (within : statement.nesting ≤ depth) :
    Takes (Rule.statement depth) statement.tokens statement.node extendsStatement := by
  intro text rest reads avoids
  obtain ⟨depth, rfl⟩ : ∃ smaller, depth = smaller + 1 :=
    ⟨depth - 1, by have positive := statement.nesting_pos; omega⟩
  -- Each constructor belongs to one alternative, and the others do not apply.
  cases statement with
  | command kind operand =>
      refine statement_of_alternative ?_ (command_takes kind operand reads avoids)
      cases kind <;> simp [alternatives, Command.word, Command.build]
  | loop times body =>
      have takes := statement_takes body (Nat.le_of_succ_le_succ within)
      exact statement_of_alternative (by simp [alternatives]) (loop_takes times takes reads avoids)
  | define name params body =>
      have takes := statementsOf_takes
        (many_statement_takes body (Nat.le_of_succ_le_succ within))
      exact statement_of_alternative (by simp [alternatives])
        (define_takes name params takes reads avoids)
  | branch left right body =>
      have takes := statement_takes body (Nat.le_of_succ_le_succ within)
      exact statement_of_alternative (by simp [alternatives])
        (branch_takes left right takes reads avoids)
  | stop => exact statement_of_alternative (by simp [alternatives]) (stop_takes reads avoids)
  | call name args =>
      exact statement_of_alternative (by simp [alternatives]) (call_takes name args reads avoids)
  | block body =>
      have takes := statementsOf_takes
        (many_statement_takes body (Nat.le_of_succ_le_succ within))
      exact statement_of_alternative (by simp [alternatives]) (block_takes takes reads avoids)

theorem many_statement_takes (statements : Statements) {depth : Nat}
    (within : statements.nesting ≤ depth) :
    Takes (many (Rule.statement depth)) statements.tokens statements.nodes extendsRun := by
  intro text rest reads avoids
  cases statements with
  | last statement =>
      have ends : Avoids extendsStatement rest :=
        avoids.mono fun token extended => by simp [extendsRun, extended]
      have first := statement_takes statement within reads ends
      obtain ⟨depth, rfl⟩ : ∃ smaller, depth = smaller + 1 :=
        ⟨depth - 1, by
          have positive := statement.nesting_pos
          simp only [Statements.nesting] at within
          omega⟩
      have stopped : Rule.statement (depth + 1) (.ofList rest) = .unmatched :=
        statement_unmatched (avoids.mono fun token extended => by simp [extendsRun, extended])
      rw [many_statement_cons first reads, many_of_unmatched stopped]
      rfl
  | next statement others =>
      obtain ⟨middle, front, back⟩ := reads.split
      obtain ⟨here, there⟩ := Nat.max_le.mp within
      have ends := avoids_of_starts others.tokens_starts back
      have first := statement_takes statement here front ends
      have more := many_statement_takes others there back avoids
      rw [many_statement_cons first front, more]
      rfl

end

/-- A rule for a whole text matches where the rule reaches the end behind leading white space. -/
theorem whole_matched_iff {Value : Type} {rule : Rule Value} {text : List Char} {value : Value}
    {rest : Cursor} :
    atEnd (do
        let _ ← spaces
        rule) (.ofList text) = .matched value rest ↔
      rule (.ofList (skip text)) = .matched value rest ∧ rest.chars = [] := by
  have start : (do
      let _ ← spaces
      rule : Rule Value) (.ofList text) = rule (.ofList (skip text)) :=
    bind_of_matched _ (spaces_apply text)
  unfold atEnd
  rw [start]
  cases rule (.ofList (skip text)) with
  | matched found last =>
      by_cases atEnd : last.chars.isEmpty = true
      · simp only [atEnd, if_true, Reply.matched.injEq]
        constructor
        · rintro ⟨rfl, rfl⟩
          exact ⟨⟨rfl, rfl⟩, List.isEmpty_iff.mp atEnd⟩
        · exact And.left
      · simp only [atEnd, Bool.false_eq_true, if_false, reduceCtorEq, Reply.matched.injEq,
          false_iff]
        rintro ⟨⟨rfl, rfl⟩, empty⟩
        exact atEnd (by simp [empty])
  | unmatched => simp
  | aborted cause => simp

/-- A text that spells a derivation within the limit is a program with its tree. -/
theorem program_of_spells {levels : Nat} {text : String} {statements : Statements}
    (spells : Spells text statements.tokens) (within : statements.nesting ≤ levels) :
    program levels (.ofString text) = .matched statements.node (.ofList []) :=
  whole_matched_iff.mpr
    ⟨statementsOf_takes (many_statement_takes statements within) spells.reads (avoids_end _), rfl⟩

/-- Every program spells a derivation within the limit that has its tree. -/
theorem spells_of_program {levels : Nat} {text : String} {node : Node} {rest : Cursor}
    (matched : program levels (.ofString text) = .matched node rest) :
    ∃ statements : Statements, Spells text statements.tokens ∧
      statements.nesting ≤ levels ∧ statements.node = node := by
  obtain ⟨found, atEnd⟩ := whole_matched_iff.mp matched
  obtain ⟨⟨statements, within⟩, reads, rfl⟩ :=
    statementsOf_sound (statement_sound levels) found
  rw [atEnd] at reads
  exact ⟨statements, reads_iff_tokenize.mp reads, within, rfl⟩

theorem wholeExpression_of_spells {text : String} {derivation : Expression}
    (spells : Spells text (expressionTokens derivation)) :
    wholeExpression (.ofString text) = .matched (expressionNode derivation) (.ofList []) :=
  whole_matched_iff.mpr ⟨expression_complete spells.reads (avoids_end _), rfl⟩

end Rule

/-- The program rule accepts exactly its grammar: it matches a text if and only if the tokens of
the text have a derivation with literals and nesting within the limits, and the tree it returns is
the tree of that derivation. The limit of nesting is arbitrary. -/
theorem program_accepts_iff (levels : Nat) (text : String) (node : Node) :
    (∃ rest, Rule.program levels (.ofString text) = .matched node rest) ↔
      ∃ derivation : Derivation.Statements,
        Token.tokenize text.toList = some derivation.tokens ∧
        (∀ token ∈ derivation.tokens, token.Fits) ∧
        derivation.nesting ≤ levels ∧ derivation.node = node := by
  constructor
  · rintro ⟨rest, matched⟩
    obtain ⟨derivation, ⟨tokens, fits⟩, within, same⟩ := Rule.spells_of_program matched
    exact ⟨derivation, tokens, fits, within, same⟩
  · rintro ⟨derivation, tokens, fits, within, rfl⟩
    exact ⟨.ofList [], Rule.program_of_spells ⟨tokens, fits⟩ within⟩

end Turtle
