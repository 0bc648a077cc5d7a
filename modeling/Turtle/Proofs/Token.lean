import Turtle.Grammar
import Turtle.Proofs.Combinators
import Mathlib.Tactic.IntervalCases

/-
This file cuts a text into tokens and shows that each token rule of the grammar reads one token.
-/

namespace Turtle

namespace Text

theorem isAsciiDigit_iff (char : Char) :
    isAsciiDigit char = true ↔ 48 ≤ char.toNat ∧ char.toNat ≤ 57 := by
  simp only [isAsciiDigit, Bool.and_eq_true, decide_eq_true_eq]
  exact Iff.rfl

theorem isAsciiLetter_iff (char : Char) :
    isAsciiLetter char = true ↔
      (65 ≤ char.toNat ∧ char.toNat ≤ 90) ∨ (97 ≤ char.toNat ∧ char.toNat ≤ 122) := by
  simp only [isAsciiLetter, Bool.or_eq_true, Bool.and_eq_true, decide_eq_true_eq]
  exact Iff.rfl

theorem isAsciiLetter_of_digit {char : Char} (digit : isAsciiDigit char = true) :
    isAsciiLetter char = false := by
  rw [isAsciiDigit_iff] at digit
  rw [Bool.eq_false_iff, Ne, isAsciiLetter_iff]
  omega

theorem isAsciiDigit_of_letter {char : Char} (letter : isAsciiLetter char = true) :
    isAsciiDigit char = false := by
  rw [Bool.eq_false_iff]
  intro digit
  rw [isAsciiLetter_of_digit digit] at letter
  cases letter

/-- No alphanumeric character is white space. -/
theorem isAlphanumeric_of_space {char : Char} (space : isSpace char = true) :
    isAlphanumeric char = false := by
  simp only [isSpace, inRanges, spaceRanges] at space
  unfold isAlphanumeric
  generalize char.toNat = code at space ⊢
  have places : (9 ≤ code ∧ code ≤ 13) ∨ (28 ≤ code ∧ code ≤ 32) ∨ code = 0x85 ∨ code = 0xA0 ∨
      code = 0x1680 ∨ (0x2000 ≤ code ∧ code ≤ 0x200A) ∨ (0x2028 ≤ code ∧ code ≤ 0x2029) ∨
      code = 0x202F ∨ code = 0x205F ∨ code = 0x3000 := by
    grind
  rcases places with h | h | rfl | rfl | rfl | h | h | rfl | rfl | rfl
  all_goals first
    | decide +kernel
    | (obtain ⟨low, high⟩ := h; interval_cases code <;> decide +kernel)

end Text

/-- A token is a literal, a name, a variable or a symbol. -/
inductive Token where
  | literal (digits : List Char)
  | name (word : String)
  | reference (name : String)
  | symbol (char : Char)
  deriving DecidableEq

namespace Token

def symbols : List Char :=
  ['[', ']', '/', '-', '=']

/-- The longest token at the front of a text is cut off. A name must not touch an alphanumeric
character, and the colon of a variable touches its name. -/
def cut? : List Char → Option (Token × List Char)
  | [] => none
  | char :: rest =>
      if Text.isAsciiDigit char then
        some (.literal (char :: rest.takeWhile Text.isAsciiDigit),
          rest.dropWhile Text.isAsciiDigit)
      else if Text.isAsciiLetter char then
        let behind := rest.dropWhile Text.isAsciiLetter
        if behind.head?.any Text.isAlphanumeric then none
        else some (.name (String.ofList (char :: rest.takeWhile Text.isAsciiLetter)), behind)
      else if char == ':' then
        let letters := rest.takeWhile Text.isAsciiLetter
        if letters.isEmpty then none
        else some (.reference (String.ofList letters), rest.dropWhile Text.isAsciiLetter)
      else if symbols.contains char then some (.symbol char, rest)
      else none

def skip (text : List Char) : List Char :=
  text.dropWhile Text.isSpace

/-- The token at the front of a text is cut off together with the white space behind it. -/
def scan (text : List Char) : Option (Token × List Char) :=
  (cut? text).map fun found => (found.1, skip found.2)

theorem length_dropWhile_le (test : Char → Bool) (text : List Char) :
    (text.dropWhile test).length ≤ text.length :=
  (List.dropWhile_sublist test).length_le

theorem cut?_length {text behind : List Char} {token : Token}
    (found : cut? text = some (token, behind)) : behind.length < text.length := by
  cases text with
  | nil => simp [cut?] at found
  | cons char rest =>
      have digits := length_dropWhile_le Text.isAsciiDigit rest
      have letters := length_dropWhile_le Text.isAsciiLetter rest
      simp only [cut?] at found
      split_ifs at found <;> simp at found <;> obtain ⟨-, rfl⟩ := found <;> simp <;> omega

theorem scan_length {text rest : List Char} {token : Token}
    (found : scan text = some (token, rest)) : rest.length < text.length := by
  simp only [scan, Option.map_eq_some_iff] at found
  obtain ⟨⟨first, behind⟩, cut, same⟩ := found
  have shorter := cut?_length cut
  have skipped := length_dropWhile_le Text.isSpace behind
  cases same
  exact Nat.lt_of_le_of_lt skipped shorter

/-- A text is cut into its tokens, and white space separates them. -/
def tokenize (text : List Char) : Option (List Token) :=
  match front : skip text with
  | [] => some []
  | char :: rest =>
      match found : cut? (char :: rest) with
      | none => none
      | some (token, behind) => (tokenize behind).map (token :: ·)
termination_by text.length
decreasing_by
  have skipped := length_dropWhile_le Text.isSpace text
  rw [skip] at front
  rw [front] at skipped
  exact Nat.lt_of_lt_of_le (cut?_length found) skipped

/-- A literal fits when it has no more digits than the limit admits. -/
def Fits : Token → Prop
  | .literal digits => digits.length ≤ maxDigits
  | _ => True

instance (token : Token) : Decidable token.Fits :=
  match token with
  | .literal digits => inferInstanceAs (Decidable (digits.length ≤ maxDigits))
  | .name _ | .reference _ | .symbol _ => inferInstanceAs (Decidable True)

/-- The tokens are read from the front of a text, all of them fit, and the rest is left. -/
inductive Reads : List Char → List Token → List Char → Prop where
  | nil {text : List Char} : Reads text [] text
  | cons {text middle rest : List Char} {token : Token} {tokens : List Token}
      (found : scan text = some (token, middle)) (fits : token.Fits)
      (more : Reads middle tokens rest) : Reads text (token :: tokens) rest

namespace Reads

theorem single {text rest : List Char} {token : Token} (found : scan text = some (token, rest))
    (fits : token.Fits) : Reads text [token] rest :=
  .cons found fits .nil

theorem append {text middle rest : List Char} {first second : List Token}
    (front : Reads text first middle) (back : Reads middle second rest) :
    Reads text (first ++ second) rest := by
  induction front with
  | nil => exact back
  | cons found fits _ inductionHypothesis => exact .cons found fits (inductionHypothesis back)

theorem split {text rest : List Char} {first second : List Token}
    (reads : Reads text (first ++ second) rest) :
    ∃ middle, Reads text first middle ∧ Reads middle second rest := by
  induction first generalizing text with
  | nil => exact ⟨text, .nil, reads⟩
  | cons token tokens inductionHypothesis =>
      cases reads with
      | cons found fits more =>
          obtain ⟨middle, front, back⟩ := inductionHypothesis more
          exact ⟨middle, .cons found fits front, back⟩

theorem uncons {text rest : List Char} {token : Token} {tokens : List Token}
    (reads : Reads text (token :: tokens) rest) :
    ∃ middle, scan text = some (token, middle) ∧ Reads middle tokens rest := by
  cases reads with
  | cons found _ more => exact ⟨_, found, more⟩

/-- Every token takes at least one character. -/
theorem length_le {text rest : List Char} {tokens : List Token}
    (reads : Reads text tokens rest) : rest.length + tokens.length ≤ text.length := by
  induction reads with
  | nil => simp
  | cons found _ _ inductionHypothesis =>
      have shorter := scan_length found
      simp only [List.length_cons]
      omega

theorem fits {text rest : List Char} {tokens : List Token} (reads : Reads text tokens rest) :
    ∀ token ∈ tokens, token.Fits := by
  induction reads with
  | nil => simp
  | cons _ fits _ inductionHypothesis => simpa using ⟨fits, inductionHypothesis⟩

end Reads

theorem scan_of_cut? {text behind : List Char} {token : Token}
    (found : cut? text = some (token, behind)) : scan text = some (token, skip behind) := by
  simp [scan, found]

theorem tokenize_of_skip_nil {text : List Char} (front : skip text = []) :
    tokenize text = some [] := by
  rw [tokenize]
  split
  · rfl
  · simp_all

theorem tokenize_of_skip_cons {text rest : List Char} {char : Char}
    (front : skip text = char :: rest) :
    tokenize text =
      (cut? (char :: rest)).bind fun found => (tokenize found.2).map (found.1 :: ·) := by
  rw [tokenize]
  split
  · simp_all
  · rename_i other tail same
    rw [front] at same
    obtain ⟨rfl, rfl⟩ := List.cons.inj same
    split <;> simp_all

/-- The tokens of a text are read from its front up to its end. -/
theorem reads_of_tokenize {text : List Char} {tokens : List Token}
    (found : tokenize text = some tokens) (fits : ∀ token ∈ tokens, token.Fits) :
    Reads (skip text) tokens [] := by
  fun_induction tokenize text generalizing tokens with
  | case1 text front =>
      rw [front]
      cases found
      exact .nil
  | case2 text char rest front missing => cases found
  | case3 text char rest front token behind cut inductionHypothesis =>
      rw [front]
      obtain ⟨others, more, rfl⟩ := Option.map_eq_some_iff.mp found
      obtain ⟨firstFits, othersFit⟩ := List.forall_mem_cons.mp fits
      exact .cons (scan_of_cut? cut) firstFits (inductionHypothesis more othersFit)

theorem tokenize_of_reads {text : List Char} {tokens : List Token}
    (reads : Reads (skip text) tokens []) : tokenize text = some tokens := by
  generalize front : skip text = start at reads
  generalize atEnd : ([] : List Char) = finish at reads
  induction reads generalizing text with
  | nil =>
      subst atEnd
      exact tokenize_of_skip_nil front
  | @cons start middle finish token tokens found _ more inductionHypothesis =>
      obtain ⟨⟨first, behind⟩, cut, same⟩ := Option.map_eq_some_iff.mp found
      cases same
      cases start with
      | nil => simp [cut?] at cut
      | cons char rest =>
          rw [tokenize_of_skip_cons front, cut]
          simp [inductionHypothesis rfl atEnd]

theorem reads_iff_tokenize {text : List Char} {tokens : List Token} :
    Reads (skip text) tokens [] ↔
      tokenize text = some tokens ∧ ∀ token ∈ tokens, token.Fits :=
  ⟨fun reads => ⟨tokenize_of_reads reads, reads.fits⟩,
    fun ⟨found, fits⟩ => reads_of_tokenize found fits⟩

end Token

end Turtle
