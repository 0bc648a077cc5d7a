import Turtle.Proofs.Token

namespace Turtle

open Token

namespace Parser

variable {ε α : Type}

theorem spaces_apply (text : List Char) :
    (spaces : Parser ε (List Char)) (.ofList text) =
      .matched (text.takeWhile Text.isSpace) (.ofList (skip text)) :=
  many_satisfy Text.isSpace text

/-- A token that needs no boundary leaves the text behind its white space. -/
theorem lexeme_of_matched {parser : Parser ε α} {input : Cursor} {value : α} {behind : List Char}
    (found : parser input = .matched value (.ofList behind)) :
    lexeme parser false input = .matched value (.ofList (skip behind)) := by
  unfold lexeme
  rw [bind_of_matched _ found, bind_of_matched _ (spaces_apply behind)]
  rfl

/-- A bounded token must not touch an alphanumeric character. -/
theorem lexeme_bounded_of_matched {parser : Parser ε α} {input : Cursor} {value : α}
    {behind : List Char} (found : parser input = .matched value (.ofList behind)) :
    lexeme parser true input =
      if behind.head?.any Text.isAlphanumeric then .unmatched
      else .matched value (.ofList (skip behind)) := by
  unfold lexeme
  rw [bind_of_matched _ found, bind_of_matched _ (spaces_apply behind)]
  cases behind with
  | nil => rfl
  | cons char rest =>
      by_cases space : Text.isSpace char
      · have plain := Text.isAlphanumeric_of_space space
        simp [space, plain]
      · simp [space, notBefore, skip]

theorem lexeme_of_unmatched {parser : Parser ε α} {input : Cursor} (bounded : Bool)
    (missing : parser input = .unmatched) : lexeme parser bounded input = .unmatched := by
  unfold lexeme
  exact bind_of_unmatched _ missing

theorem lexeme_of_aborted {parser : Parser ε α} {input : Cursor} {cause : ε} (bounded : Bool)
    (given : parser input = .aborted cause) : lexeme parser bounded input = .aborted cause := by
  unfold lexeme
  rw [bind_apply, given]

/-- A run of characters is converted when it is not empty. -/
theorem convert_run_apply (test : Char → Bool) (combine : List Char → Except ε α)
    (text : List Char) :
    ((nonempty (many (satisfy test))).convert combine) (.ofList text) =
      if (text.takeWhile test).isEmpty then .unmatched
      else match combine (text.takeWhile test) with
        | .ok value => .matched value (.ofList (text.dropWhile test))
        | .error cause => .aborted cause := by
  simp only [convert, nonempty, guard, refine, many_satisfy]
  by_cases empty : (text.takeWhile test).isEmpty = true
  · simp [empty]
  · simp only [empty, Bool.not_false, if_true]
    cases combine (text.takeWhile test) <;> rfl

end Parser

namespace Rule

open Turtle.Parser

/-- The literal rule reads a literal token and gives up on one that has too many digits. -/
theorem number_apply (text : List Char) :
    number (.ofList text) = match scan text with
      | some (.literal digits, rest) =>
          if maxDigits < digits.length then .aborted (.literalTooLong digits.length)
          else .matched (digitsValue digits) (.ofList rest)
      | _ => .unmatched := by
  have run := convert_run_apply Text.isAsciiDigit (fun digits =>
    if maxDigits < digits.length then .error (ParseAbort.literalTooLong digits.length)
    else .ok (digitsValue digits)) text
  unfold number span
  cases text with
  | nil => exact lexeme_of_unmatched false run
  | cons char rest =>
      by_cases digit : Text.isAsciiDigit char
      · simp only [List.takeWhile_cons, List.dropWhile_cons, digit, if_true, List.isEmpty_cons,
          Bool.false_eq_true, if_false] at run
        simp only [scan, cut?, digit, if_true, Option.map_some]
        split_ifs with long
        · simp only [long, if_true] at run
          exact lexeme_of_aborted false run
        · simp only [long, if_false] at run
          exact lexeme_of_matched run
      · simp only [List.takeWhile_cons, digit, Bool.false_eq_true, if_false, List.isEmpty_nil,
          if_true] at run
        rw [lexeme_of_unmatched false run]
        simp only [scan, cut?, digit, Bool.false_eq_true, if_false]
        split_ifs <;> rfl

theorem name_apply (text : List Char) :
    name (.ofList text) = match scan text with
      | some (.name word, rest) => .matched word (.ofList rest)
      | _ => .unmatched := by
  have run := convert_run_apply Text.isAsciiLetter
    (fun letters => (.ok (String.ofList letters) : Except ParseAbort String)) text
  unfold name span
  cases text with
  | nil => exact lexeme_of_unmatched true run
  | cons char rest =>
      by_cases letter : Text.isAsciiLetter char
      · have digit : Text.isAsciiDigit char = false := by
          rw [Bool.eq_false_iff]
          intro digit
          rw [Text.isAsciiLetter_of_digit digit] at letter
          cases letter
        simp only [List.takeWhile_cons, List.dropWhile_cons, letter, if_true, List.isEmpty_cons,
          Bool.false_eq_true, if_false] at run
        rw [lexeme_bounded_of_matched run]
        simp only [scan, cut?, digit, letter, Bool.false_eq_true, if_false, if_true]
        split_ifs <;> rfl
      · simp only [List.takeWhile_cons, letter, Bool.false_eq_true, if_false, List.isEmpty_nil,
          if_true] at run
        rw [lexeme_of_unmatched true run]
        simp only [scan, cut?, letter, Bool.false_eq_true, if_false]
        split_ifs <;> rfl

theorem variableName_apply (text : List Char) :
    variableName (.ofList text) = match scan text with
      | some (.reference word, rest) => .matched word (.ofList rest)
      | _ => .unmatched := by
  unfold variableName
  cases text with
  | nil => exact bind_of_unmatched _ rfl
  | cons char rest =>
      by_cases colon : char = ':'
      · subst colon
        have found : (satisfy (· == ':') : Rule Char) (.ofList (':' :: rest)) =
            .matched ':' (.ofList rest) := rfl
        rw [bind_of_matched _ found]
        have run := convert_run_apply Text.isAsciiLetter
          (fun letters => (.ok (String.ofList letters) : Except ParseAbort String)) rest
        have digit : Text.isAsciiDigit ':' = false := by decide
        have letter : Text.isAsciiLetter ':' = false := by decide
        simp only [scan, cut?, digit, letter, Bool.false_eq_true, if_false, beq_self_eq_true,
          if_true]
        unfold span
        split_ifs with missing
        · simp only [missing, if_true] at run
          exact lexeme_of_unmatched false run
        · simp only [missing] at run
          exact lexeme_of_matched run
      · have missing : (satisfy (· == ':') : Rule Char) (.ofList (char :: rest)) = .unmatched := by
          simp [satisfy, colon]
        rw [bind_of_unmatched _ missing]
        simp only [scan, cut?, beq_iff_eq, colon, if_false]
        split_ifs <;> rfl

theorem symbol_apply {char : Char} (member : char ∈ symbols) (text : List Char) :
    (Parser.symbol char : Rule Char) (.ofList text) = match scan text with
      | some (.symbol found, rest) =>
          if found = char then .matched char (.ofList rest) else .unmatched
      | _ => .unmatched := by
  have plain : Text.isAsciiDigit char = false ∧ Text.isAsciiLetter char = false ∧ char ≠ ':' := by
    simp only [symbols, List.mem_cons, List.not_mem_nil, or_false] at member
    rcases member with rfl | rfl | rfl | rfl | rfl <;> decide
  unfold Parser.symbol
  cases text with
  | nil => exact lexeme_of_unmatched false rfl
  | cons first rest =>
      by_cases same : first = char
      · subst same
        have found : (satisfy (· == first) : Rule Char) (.ofList (first :: rest)) =
            .matched first (.ofList rest) := by
          simp [satisfy]
        rw [lexeme_of_matched found]
        simp [scan, cut?, plain, member]
      · have missing :
            (satisfy (· == char) : Rule Char) (.ofList (first :: rest)) = .unmatched := by
          simp [satisfy, same]
        rw [lexeme_of_unmatched false missing]
        simp only [scan, cut?]
        split_ifs <;> simp_all

end Rule

end Turtle
