import Turtle.Program
import Turtle.Proofs.TokenRule
import Mathlib.Data.List.Infix

/-
This file shows for which causes a text is given up. A match leaves an end of the text, and a
literal that is too long for any number stands in the text as a run of digits.
-/

namespace Turtle

/-- The text has a run of this many digits, which is too long for a literal. -/
def LongLiteral (text : List Char) (count : Nat) : Prop :=
  ∃ digits, digits <:+: text ∧ (∀ char ∈ digits, Text.isAsciiDigit char = true) ∧
    digits.length = count ∧ maxDigits < count

/-- A literal that is too long stands in the text. -/
def ParseAbort.Explains (text : List Char) : ParseAbort → Prop
  | .literalTooLong count => LongLiteral text count
  | .nestedTooDeep => True

/-- What explains a cause at the end of a text explains it in the whole text. -/
theorem ParseAbort.Explains.of_suffix {text longer : List Char} {cause : ParseAbort}
    (explains : cause.Explains text) (ending : text <:+ longer) : cause.Explains longer := by
  cases cause with
  | nestedTooDeep => trivial
  | literalTooLong count =>
      obtain ⟨digits, inside, rest⟩ := explains
      exact ⟨digits, inside.trans ending.isInfix, rest⟩

namespace Rule

open Turtle.Parser

variable {α β γ : Type}

/-- What a match leaves is an end of the text, and the text explains why it is given up. -/
def Explained (rule : Rule α) : Prop :=
  ∀ input, match rule input with
    | .matched _ rest => rest.chars <:+ input.chars
    | .unmatched => True
    | .aborted cause => cause.Explains input.chars

theorem explained_pure (value : α) : Explained (pure value) :=
  fun _ => List.suffix_rfl

theorem explained_satisfy (test : Char → Bool) : Explained (satisfy test) := by
  rintro ⟨chars, remaining, counted⟩
  cases chars with
  | nil => trivial
  | cons char rest =>
      simp only [satisfy, Cursor.next?]
      split_ifs
      · exact List.suffix_cons char rest
      · trivial

theorem explained_notBefore (test : Char → Bool) (value : α) :
    Explained (notBefore test value) := by
  rintro ⟨chars, remaining, counted⟩
  cases chars with
  | nil => exact List.suffix_rfl
  | cons char rest =>
      simp only [notBefore, Cursor.next?]
      split_ifs
      · trivial
      · exact List.suffix_rfl

theorem Explained.refine {rule : Rule α} (explained : Explained rule) (view : α → Option β) :
    Explained (rule.refine view) := by
  intro input
  have here := explained input
  rw [Parser.refine]
  generalize rule input = reply at here ⊢
  cases reply with
  | matched value rest =>
      dsimp only
      cases view value with
      | some result => exact here
      | none => trivial
  | unmatched => trivial
  | aborted cause => exact here

/-- A conversion that never fails adds no cause. -/
theorem Explained.convert {rule : Rule α} (explained : Explained rule) (action : α → β) :
    Explained (rule.convert fun value => .ok (action value)) := by
  intro input
  have here := explained input
  rw [Parser.convert]
  generalize rule input = reply at here ⊢
  cases reply with
  | matched value rest => exact here
  | unmatched => trivial
  | aborted cause => exact here

theorem Explained.atEnd {rule : Rule α} (explained : Explained rule) : Explained rule.atEnd := by
  intro input
  have here := explained input
  rw [Parser.atEnd]
  generalize rule input = reply at here ⊢
  cases reply with
  | matched value rest =>
      dsimp only
      split_ifs
      · exact here
      · trivial
  | unmatched => trivial
  | aborted cause => exact here

theorem Explained.choice {rules : List (Rule α)} (explained : ∀ rule ∈ rules, Explained rule) :
    Explained (Parser.choice rules) := by
  induction rules with
  | nil => exact fun _ => trivial
  | cons rule rest inductionHypothesis =>
      obtain ⟨first, others⟩ := List.forall_mem_cons.mp explained
      intro input
      have here := first input
      simp only [Parser.choice]
      generalize rule input = reply at here ⊢
      cases reply with
      | matched value behind => exact here
      | unmatched => exact inductionHypothesis others input
      | aborted cause => exact here

theorem Explained.bind {rule : Rule α} {next : α → Rule β} (explained : Explained rule)
    (others : ∀ value, Explained (next value)) : Explained (rule >>= next) := by
  intro input
  have here := explained input
  rw [bind_apply]
  generalize rule input = reply at here ⊢
  cases reply with
  | matched value middle =>
      have there := others value middle
      dsimp only at here ⊢
      generalize next value middle = answer at there ⊢
      cases answer with
      | matched result rest => exact there.trans here
      | unmatched => trivial
      | aborted cause => exact there.of_suffix here
  | unmatched => trivial
  | aborted cause => exact here

theorem Explained.map {rule : Rule α} (explained : Explained rule) (build : α → β) :
    Explained (build <$> rule) :=
  explained.bind fun value => explained_pure (build value)

/-- Each round of a repetition starts at an end of the text. -/
theorem Explained.many {rule : Rule α} (explained : Explained rule) :
    Explained (Parser.many rule) := by
  intro input
  induction size : input.remaining using Nat.strongRecOn generalizing input with
  | ind length inductionHypothesis =>
      have here := explained input
      cases reply : rule input with
      | matched value middle =>
          rw [reply] at here
          by_cases consumes : middle.remaining < input.remaining
          · have there := inductionHypothesis middle.remaining (size ▸ consumes) middle rfl
            rw [many_of_matched reply consumes]
            generalize Parser.many rule middle = answer at there ⊢
            cases answer with
            | matched values rest => exact there.trans here
            | unmatched => trivial
            | aborted cause => exact there.of_suffix here
          · simp [Parser.many, manyWithin, reply, consumes]
      | unmatched => rw [many_of_unmatched reply]
      | aborted cause =>
          rw [reply] at here
          simpa only [Parser.many, manyWithin, reply] using here

theorem explained_spaces : Explained spaces :=
  (explained_satisfy Text.isSpace).many

theorem Explained.lexeme {rule : Rule α} (explained : Explained rule) (bounded : Bool) :
    Explained (Parser.lexeme rule bounded) := by
  refine explained.bind fun value => explained_spaces.bind fun blanks => ?_
  split_ifs
  · exact explained_notBefore _ value
  · exact explained_pure value

theorem explained_symbol (char : Char) : Explained (symbol char) :=
  (explained_satisfy _).lexeme false

theorem Explained.binaryLeft {base : Rule α} {operator : Rule β} (explained : Explained base)
    (signs : Explained operator) (combine : β → α → α → α) :
    Explained (Parser.binaryLeft base operator combine) := by
  have tail := signs.bind fun sign => explained.bind fun right => explained_pure (sign, right)
  exact explained.bind fun first => tail.many.bind fun tails => explained_pure _

theorem Explained.statementsOf {inner : Rule Node} (explained : Explained inner) :
    Explained (statementsOf inner) :=
  explained.many.refine _

/-- A literal that is too long is the longest run of digits in front of the text. -/
theorem number_explained : Explained number := by
  have run : Explained ((nonempty (many (satisfy Text.isAsciiDigit))).convert fun digits =>
      if maxDigits < digits.length then .error (.literalTooLong digits.length)
      else .ok (digitsValue digits)) := by
    intro input
    rw [← input.ofList_chars, convert_run_apply]
    split_ifs with empty long
    · trivial
    · have front : input.chars.takeWhile Text.isAsciiDigit <+: input.chars :=
        List.takeWhile_prefix Text.isAsciiDigit
      exact ⟨_, front.isInfix, List.all_eq_true.mp List.all_takeWhile, rfl, long⟩
    · exact List.dropWhile_suffix _
  exact run.lexeme false

/-- Words are runs of letters, and no run of letters is too long. -/
theorem explained_word (bounded : Bool) : Explained
    (span (satisfy Text.isAsciiLetter) (fun letters => .ok (String.ofList letters)) bounded) :=
  (((explained_satisfy _).many.refine _).convert String.ofList).lexeme bounded

theorem name_guard_explained (test : String → Bool) : Explained (name.guard test) :=
  (explained_word true).refine _

theorem variableName_explained : Explained variableName :=
  (explained_satisfy _).bind fun _ => explained_word false

theorem atom_explained : Explained atom := by
  apply Explained.choice
  intro rule member
  simp only [List.mem_cons, List.not_mem_nil, or_false] at member
  rcases member with rfl | rfl
  · exact number_explained.map literal
  · exact variableName_explained.map Node.var

theorem expression_explained : Explained expression :=
  (atom_explained.binaryLeft (explained_symbol '/') _).binaryLeft (explained_symbol '-') _

theorem command_explained (word : String) (build : Node → Node) : Explained (command word build) :=
  (name_guard_explained _).bind fun _ => expression_explained.bind fun _ => explained_pure _

theorem comparison_explained : Explained comparison :=
  expression_explained.bind fun _ => (explained_symbol '=').bind fun _ =>
    expression_explained.bind fun _ => explained_pure _

/-- Every alternative is explained where the statements inside it are. -/
theorem alternatives_explained {inner : Rule Node} (explained : Explained inner) :
    ∀ rule ∈ alternatives inner, Explained rule := by
  have keyword := fun word => name_guard_explained (· == word)
  have unreserved := name_guard_explained fun word => !reservedWords.contains word
  intro rule member
  simp only [alternatives, List.mem_cons, List.not_mem_nil, or_false] at member
  rcases member with rfl | rfl | rfl | rfl | rfl | rfl | rfl | rfl | rfl
  · exact command_explained _ _
  · exact command_explained _ _
  · exact command_explained _ _
  · exact (keyword _).bind fun _ => expression_explained.bind fun _ => explained.bind fun _ =>
      explained_pure _
  · exact (keyword _).bind fun _ => unreserved.bind fun _ =>
      variableName_explained.many.bind fun _ => explained.statementsOf.bind fun _ =>
        (keyword _).bind fun _ => explained_pure _
  · exact (keyword _).bind fun _ => comparison_explained.bind fun _ => explained.bind fun _ =>
      explained_pure _
  · exact (keyword _).bind fun _ => explained_pure _
  · exact unreserved.bind fun _ => expression_explained.many.bind fun _ => explained_pure _
  · exact (explained_symbol _).bind fun _ => explained.statementsOf.bind fun _ =>
      (explained_symbol _).bind fun _ => explained_pure _

theorem statement_explained (depth : Nat) : Explained (statement depth) := by
  induction depth with
  | zero => exact fun _ => trivial
  | succ depth inductionHypothesis => exact .choice (alternatives_explained inductionHypothesis)

theorem program_explained (levels : Nat) : Explained (program levels) :=
  (explained_spaces.bind fun _ => (statement_explained levels).statementsOf).atEnd

theorem statementRun_explained (levels : Nat) : Explained (statementRun levels) :=
  explained_spaces.bind fun _ => (statement_explained levels).many

end Rule

namespace Program

theorem longLiteral_of_abortError {text other : List Char} {filename : String} {cause : ParseAbort}
    {count : Nat} (explains : cause.Explains text)
    (same : abortError other filename cause = .literalTooLong count) : LongLiteral text count := by
  cases cause with
  | literalTooLong digits =>
      cases same
      exact explains
  | nestedTooDeep => cases same

/-- A text is given up for a literal only if the literal stands in it and is too long. -/
theorem longLiteral_of_read {levels : Nat} {text : List Char} {filename : String} {count : Nat}
    (failed : readChars levels text filename = .error (.literalTooLong count)) :
    LongLiteral text count := by
  have program := Rule.program_explained levels (.ofList text)
  rw [readChars] at failed
  split at failed
  · cases failed
  · have run := Rule.statementRun_explained levels (.ofList text)
    have same := Except.error.inj failed
    rw [rejection, Rule.errorLocation] at same
    generalize Rule.statementRun levels (.ofList text) = reply at run same
    cases reply with
    | matched statements rest => cases same
    | unmatched => cases same
    | aborted cause => exact longLiteral_of_abortError run same
  · next cause aborted =>
      rw [aborted] at program
      exact longLiteral_of_abortError program (Except.error.inj failed)

end Program

end Turtle
