import Turtle.Proofs.Grammar.Descent
import Turtle.Proofs.Grammar.Location

/-
This file shows that the rules of the grammar always make progress: a match takes at least one
token together with the white space behind it. So the repetitions of the grammar go on as long as
their rules match, and reading never stops at white space that follows a token.
-/

namespace Turtle

open Token

/-- The rest is a proper end of the text, and does not start with white space. -/
structure Cursor.Advances (input rest : Cursor) : Prop where
  consumes : rest.remaining < input.remaining
  suffix : rest.chars <:+ input.chars
  visible : ∀ char ∈ rest.chars.head?, Text.isSpace char = false

theorem Cursor.Advances.trans {input middle rest : Cursor} (first : input.Advances middle)
    (second : middle.Advances rest) : input.Advances rest :=
  ⟨second.consumes.trans first.consumes, second.suffix.trans first.suffix, second.visible⟩

theorem Token.visible_of_skip {text : List Char} (same : skip text = text) :
    ∀ char ∈ text.head?, Text.isSpace char = false := by
  intro char member
  have first := List.head?_dropWhile_not Text.isSpace text
  rw [show text.dropWhile Text.isSpace = text from same, member] at first
  simpa using first

/-- Tokens are read together with the white space behind them. -/
theorem Token.Reads.advances {input rest : Cursor} {token : Token} {tokens : List Token}
    (reads : Reads input.chars (token :: tokens) rest.chars) : input.Advances rest := by
  constructor
  · have shorter := reads.length_le
    rw [List.length_cons, ← rest.counted, ← input.counted] at shorter
    omega
  · obtain ⟨front, whole, -⟩ := reads.truncate
    exact ⟨front, whole.symm⟩
  · obtain ⟨middle, scanned, more⟩ := reads.uncons
    obtain ⟨⟨first, behind⟩, -, same⟩ := Option.map_eq_some_iff.mp scanned
    obtain ⟨-, rfl⟩ := Prod.mk.inj same
    exact visible_of_skip (more.skip_rest (skip_skip behind))

namespace Rule

open Turtle.Parser

variable {α : Type}

/-- Every match of the rule advances in the text. -/
def Advances (rule : Rule α) : Prop :=
  ∀ ⦃input rest : Cursor⦄ ⦃value : α⦄, rule input = .matched value rest → input.Advances rest

/-- A rule advances when its phrases are not empty. -/
theorem Sound.advances {Phrase : Type} {rule : Rule α} {tokens : Phrase → List Token}
    {value : Phrase → α} (sound : Sound rule tokens value)
    (starts : ∀ phrase, ∃ token more, tokens phrase = token :: more) : Advances rule := by
  intro input rest found matched
  obtain ⟨phrase, reads, -⟩ := sound matched
  obtain ⟨token, more, begins⟩ := starts phrase
  rw [begins] at reads
  exact reads.advances

theorem number_advances : Advances number := by
  intro input rest value matched
  rw [← input.ofList_chars, number_apply] at matched
  split at matched
  · next digits behind scanned =>
      split at matched
      · cases matched
      · next short =>
          cases matched
          exact (Reads.single scanned (Nat.le_of_not_lt short)).advances
  · cases matched

theorem name_advances : Advances name := by
  intro input rest word matched
  rw [← input.ofList_chars, name_apply] at matched
  split at matched
  · next found behind scanned =>
      cases matched
      exact (Reads.single scanned trivial).advances
  · cases matched

theorem variableName_advances : Advances variableName :=
  variableName_sound.advances fun word => ⟨.reference word, [], rfl⟩

theorem expression_advances : Advances expression := by
  refine expression_sound.advances fun phrase => ?_
  obtain ⟨token, more, begins, -⟩ := Derivation.expressionTokens_starts phrase
  exact ⟨token, more, begins⟩

theorem signed_advances {Phrase : Type} {item : Rule α} {tokens : Phrase → List Token}
    {value : Phrase → α} {sign : Char} (member : sign ∈ symbols)
    (sound : Sound item tokens value) : Advances (signed item sign) :=
  (signed_sound member sound).advances fun phrase => ⟨.symbol sign, tokens phrase, rfl⟩

theorem comparison_advances : Advances comparison := by
  intro input rest node matched
  obtain ⟨left, first, operand, matched⟩ := bind_matched_iff.mp matched
  obtain ⟨sign, second, symbol, matched⟩ := bind_matched_iff.mp matched
  obtain ⟨right, third, other, matched⟩ := bind_matched_iff.mp matched
  cases matched
  have equals := (symbol_reads (by decide) symbol).advances
  exact (expression_advances operand).trans (equals.trans (expression_advances other))

theorem statement_advances (depth : Nat) : Advances (statement depth) := by
  refine (statement_sound depth).advances fun phrase => ?_
  obtain ⟨token, more, begins, -⟩ := phrase.1.tokens_starts
  exact ⟨token, more, begins⟩

theorem statementsOf_advances (depth : Nat) : Advances (statementsOf (statement depth)) := by
  refine (statementsOf_sound (statement_sound depth)).advances fun phrase => ?_
  obtain ⟨token, more, begins, -⟩ := phrase.1.tokens_starts
  exact ⟨token, more, begins⟩

/-- These are the rules that the grammar repeats: the characters of white space, literals and words,
the parameters of a definition, the arguments of a call, the operands behind their signs, and the
statements of a program, a procedure or a block. -/
inductive Repeated : {α : Type} → Rule α → Prop
  | blank : Repeated (satisfy Text.isSpace)
  | digit : Repeated (satisfy Text.isAsciiDigit)
  | letter : Repeated (satisfy Text.isAsciiLetter)
  | parameter : Repeated variableName
  | argument : Repeated expression
  | divisor : Repeated (signed atom '/')
  | subtrahend : Repeated (signed term '-')
  | statement (depth : Nat) : Repeated (statement depth)

theorem satisfy_consumes {test : Char → Bool} {input rest : Cursor} {char : Char}
    (matched : (satisfy test : Rule Char) input = .matched char rest) :
    rest.remaining < input.remaining := by
  rcases input with ⟨chars, remaining, rfl⟩
  cases chars with
  | nil => cases matched
  | cons first others =>
      simp only [satisfy, Cursor.next?] at matched
      split at matched
      · cases matched
        simp
      · cases matched

/-- A rule that is repeated consumes something wherever it matches. -/
theorem Repeated.consumes {rule : Rule α} (repeated : Repeated rule) {input rest : Cursor}
    {value : α} (matched : rule input = .matched value rest) :
    rest.remaining < input.remaining := by
  cases repeated with
  | blank | digit | letter => exact satisfy_consumes matched
  | parameter => exact (variableName_advances matched).consumes
  | argument => exact (expression_advances matched).consumes
  | divisor => exact (signed_advances (by decide) atom_sound matched).consumes
  | subtrahend => exact (signed_advances (by decide) term_sound matched).consumes
  | statement depth => exact statement_consumes matched

/-- A repetition of the grammar ends only where its rule does not match. -/
theorem Repeated.unmatched_of_many {rule : Rule α} (repeated : Repeated rule)
    {input rest : Cursor} {values : List α} (matched : many rule input = .matched values rest) :
    rule rest = .unmatched := by
  induction repeats_of_many matched with
  | done missing => exact missing
  | idle found idle => exact absurd (repeated.consumes found) idle
  | step _ _ more inductionHypothesis => exact inductionHypothesis more.many_eq

/-- A repetition leaves the text as it was, or advances in it. -/
theorem Advances.of_many {rule : Rule α} (advances : Advances rule) {input rest : Cursor}
    {values : List α} (matched : many rule input = .matched values rest) :
    (values = [] ∧ rest = input) ∨ input.Advances rest := by
  induction repeats_of_many matched with
  | done _ | idle _ _ => exact .inl ⟨rfl, rfl⟩
  | step first _ more inductionHypothesis =>
      right
      rcases inductionHypothesis more.many_eq with ⟨-, rfl⟩ | further
      · exact advances first
      · exact (advances first).trans further

/-- The error of a text is never located at white space. -/
theorem visible_at_errorLocation {levels : Nat} {text : List Char} {location : Nat}
    (located : errorLocation levels (.ofList text) = .ok location) :
    ∀ char ∈ text[location]?, Text.isSpace char = false := by
  cases run : statementRun levels (.ofList text) with
  | matched nodes rest =>
      obtain ⟨place, found, total, -⟩ := stopsAt_of_statementRun run
      rw [located] at found
      cases found
      obtain ⟨front, whole, -⟩ := statementRun_truncate run
      have length : location = front.length := by
        rw [whole, List.length_append] at total
        omega
      rw [length, whole, List.getElem?_append_right (Nat.le_refl _), Nat.sub_self,
        ← List.head?_eq_getElem?]
      exact visible_of_skip (skip_rest_of_statementRun run)
  | unmatched =>
      rw [statementRun_apply] at run
      exact absurd run (manyWithin_ne_unmatched _ _ _ _)
  | aborted cause =>
      rw [errorLocation, run] at located
      cases located

end Rule

/-- The grammar makes progress on every text. A literal, a name, a variable, an expression, a
comparison, a statement and a run of statements take at least one character when they match, and
leave an end of the text that does not start with white space. Every rule that the grammar repeats
consumes something wherever it matches, so that a repetition ends only where its rule does not
match. The descent into nested statements is never deeper than the text is long: with any greater
depth the reply is the same, and the text is not given up for its nesting. A run of statements
stops where it started or at what is not white space, and so does every error. -/
theorem grammar_progresses :
    (Rule.Advances Rule.number ∧ Rule.Advances Rule.name ∧ Rule.Advances Rule.variableName ∧
      Rule.Advances Rule.expression ∧ Rule.Advances Rule.comparison ∧
      ∀ depth, Rule.Advances (Rule.statement depth) ∧
        Rule.Advances (Rule.statementsOf (Rule.statement depth))) ∧
    (∀ {α : Type} {rule : Rule α}, Rule.Repeated rule →
      (∀ input value rest, rule input = .matched value rest →
        rest.remaining < input.remaining) ∧
      ∀ input values rest, Parser.many rule input = .matched values rest →
        rule rest = .unmatched) ∧
    (∀ input depth, input.remaining < depth →
      Rule.statement depth input ≠ .aborted .nestedTooDeep ∧
      ∀ more, depth ≤ more → Rule.statement more input = Rule.statement depth input) ∧
    (∀ depth input nodes rest, Parser.many (Rule.statement depth) input = .matched nodes rest →
      (nodes = [] ∧ rest = input) ∨ input.Advances rest) ∧
    ∀ levels text location, Rule.errorLocation levels (.ofList text) = .ok location →
      ∀ char ∈ text[location]?, Text.isSpace char = false := by
  refine ⟨⟨Rule.number_advances, Rule.name_advances, Rule.variableName_advances,
    Rule.expression_advances, Rule.comparison_advances, fun depth =>
      ⟨Rule.statement_advances depth, Rule.statementsOf_advances depth⟩⟩, ?_, ?_, ?_, ?_⟩
  · intro α rule repeated
    exact ⟨fun _ _ _ matched => repeated.consumes matched,
      fun _ _ _ matched => repeated.unmatched_of_many matched⟩
  · intro input depth short
    refine ⟨(Rule.statement_settled (Nat.le_refl depth) input short).2, fun more deeper => ?_⟩
    exact (Rule.statement_settled deeper input short).1.symm
  · exact fun depth input nodes rest matched => (Rule.statement_advances depth).of_many matched
  · exact fun levels text location located => Rule.visible_at_errorLocation located

end Turtle
