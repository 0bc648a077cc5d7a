import Turtle.Proofs.Token
import Mathlib.Data.List.TakeWhile

/-
This file joins texts so that the tokens of the whole are those of the parts.
-/

namespace Turtle

/-- Two lists that go on behind a run of items with one property agree on the run and behind it. -/
theorem run_unique {α : Type} {test : α → Bool} {run other rest more : List α}
    (same : run ++ rest = other ++ more) (passesRun : ∀ item ∈ run, test item = true)
    (passesOther : ∀ item ∈ other, test item = true) (stopsRun : rest.head?.any test = false)
    (stopsOther : more.head?.any test = false) : run = other ∧ rest = more := by
  have whole {front behind : List α} (passes : ∀ item ∈ front, test item = true)
      (stops : behind.head?.any test = false) : (front ++ behind).takeWhile test = front := by
    rw [List.takeWhile_append_of_pos passes]
    cases behind with
    | nil => simp
    | cons item items => simp_all
  have runs : run = other := by
    rw [← whole passesRun stopsRun, same, whole passesOther stopsOther]
  subst runs
  exact ⟨rfl, List.append_cancel_left same⟩

namespace Text

/-- A word is a nonempty run of ASCII letters. -/
def isWord (text : String) : Bool :=
  !text.toList.isEmpty && text.toList.all isAsciiLetter

theorem isWord_cons {text : String} (isWord : Text.isWord text = true) :
    ∃ char rest, text.toList = char :: rest ∧ isAsciiLetter char = true ∧
      ∀ other ∈ rest, isAsciiLetter other = true := by
  simp only [Text.isWord, Bool.and_eq_true] at isWord
  obtain ⟨nonempty, letters⟩ := isWord
  cases begins : text.toList with
  | nil => simp [begins] at nonempty
  | cons char rest =>
      rw [begins, List.all_cons, Bool.and_eq_true, List.all_eq_true] at letters
      exact ⟨char, rest, rfl, letters⟩

theorem letters_of_isWord {word : String} (isWord : Text.isWord word = true) :
    ∀ char ∈ word.toList, isAsciiLetter char = true := by
  obtain ⟨char, rest, begins, letter, letters⟩ := isWord_cons isWord
  rw [begins]
  exact List.forall_mem_cons.mpr ⟨letter, letters⟩

end Text

namespace Token

/-- No token runs over a separating character. -/
def Separates (char : Char) : Prop :=
  Text.isAsciiDigit char = false ∧ Text.isAsciiLetter char = false ∧
    Text.isAlphanumeric char = false

theorem separates_blank : Separates ' ' := by
  refine ⟨by decide, by decide, by decide⟩

theorem separates_closing : Separates ']' := by
  refine ⟨by decide, by decide, by decide⟩

theorem takeWhile_append_cons {test : Char → Bool} {char : Char} (refused : test char = false)
    (text more : List Char) : (text ++ char :: more).takeWhile test = text.takeWhile test := by
  induction text with
  | nil => simp [refused]
  | cons first rest inductionHypothesis =>
      by_cases passes : test first <;> simp [passes, inductionHypothesis]

theorem dropWhile_append_cons {test : Char → Bool} {char : Char} (refused : test char = false)
    (text more : List Char) :
    (text ++ char :: more).dropWhile test = text.dropWhile test ++ char :: more := by
  induction text with
  | nil => simp [refused]
  | cons first rest inductionHypothesis =>
      by_cases passes : test first <;> simp [passes, inductionHypothesis]

theorem head?_any_append_cons {test : Char → Bool} {char : Char} (refused : test char = false)
    (text more : List Char) : (text ++ char :: more).head?.any test = text.head?.any test := by
  cases text <;> simp [refused]

/-- A separating character behind a text changes nothing about its first token. -/
theorem cut?_cons_append {char : Char} (separates : Separates char) (first : Char)
    (rest more : List Char) :
    cut? (first :: (rest ++ char :: more)) =
      (cut? (first :: rest)).map fun found => (found.1, found.2 ++ char :: more) := by
  obtain ⟨digit, letter, plain⟩ := separates
  simp only [cut?, takeWhile_append_cons digit, takeWhile_append_cons letter,
    dropWhile_append_cons digit, dropWhile_append_cons letter, head?_any_append_cons plain]
  split_ifs <;> rfl

/-- A token is cut off in the same way when a separating character follows the text. -/
theorem cut?_append {text behind : List Char} {token : Token} {char : Char}
    (separates : Separates char) (found : cut? text = some (token, behind)) (more : List Char) :
    cut? (text ++ char :: more) = some (token, behind ++ char :: more) := by
  cases text with
  | nil => cases found
  | cons first rest => rw [List.cons_append, cut?_cons_append separates, found, Option.map_some]

theorem tokenize_congr {first second : List Char} (same : skip first = skip second) :
    tokenize first = tokenize second := by
  cases front : skip second with
  | nil => rw [tokenize_of_skip_nil front, tokenize_of_skip_nil (same.trans front)]
  | cons char rest => rw [tokenize_of_skip_cons front, tokenize_of_skip_cons (same.trans front)]

theorem skip_append_of_nil {text : List Char} (blank : skip text = []) (more : List Char) :
    skip (text ++ more) = skip more := by
  induction text with
  | nil => rfl
  | cons char rest inductionHypothesis =>
      by_cases space : Text.isSpace char
      · simp only [skip, List.dropWhile_cons, space, if_true, List.cons_append] at blank ⊢
        exact inductionHypothesis blank
      · simp [skip, space] at blank

theorem skip_append_of_cons {text rest : List Char} {char : Char}
    (front : skip text = char :: rest) (more : List Char) :
    skip (text ++ more) = char :: (rest ++ more) := by
  induction text with
  | nil => cases front
  | cons first others inductionHypothesis =>
      by_cases space : Text.isSpace first
      · simp only [skip, List.dropWhile_cons, space, if_true, List.cons_append] at front ⊢
        exact inductionHypothesis front
      · simp only [skip, List.dropWhile_cons, space, Bool.false_eq_true, if_false,
          List.cons.injEq] at front
        obtain ⟨rfl, rfl⟩ := front
        simp [skip, space]

/-- The tokens of two texts with a separating character between them stand one after another. -/
theorem tokenize_append {text more : List Char} {char : Char} {first second : List Token}
    (front : tokenize text = some first) (separates : Separates char)
    (back : tokenize (char :: more) = some second) :
    tokenize (text ++ char :: more) = some (first ++ second) := by
  fun_induction tokenize text generalizing first with
  | case1 text blank =>
      cases front
      rw [tokenize_congr (skip_append_of_nil blank (char :: more)), back]
      rfl
  | case2 text start rest _ missing => cases front
  | case3 text start rest begins token behind cut inductionHypothesis =>
      obtain ⟨others, found, rfl⟩ := Option.map_eq_some_iff.mp front
      rw [tokenize_of_skip_cons (skip_append_of_cons begins (char :: more))]
      have longer := cut?_append separates cut more
      rw [List.cons_append] at longer
      rw [longer]
      simp [inductionHypothesis found]

theorem tokenize_space_cons {char : Char} (space : Text.isSpace char = true)
    (text : List Char) : tokenize (char :: text) = tokenize text := by
  apply tokenize_congr
  simp [skip, space]

theorem tokenize_of_cut? {text behind : List Char} {token : Token}
    (front : skip text = text) (found : cut? text = some (token, behind)) :
    tokenize text = (tokenize behind).map (token :: ·) := by
  cases text with
  | nil => cases found
  | cons char rest => simp [tokenize_of_skip_cons front, found]

theorem isSpace_of_digit {char : Char} (digit : Text.isAsciiDigit char = true) :
    Text.isSpace char = false := by
  rw [Text.isAsciiDigit_iff] at digit
  simp only [Text.isSpace, Text.inRanges, Text.spaceRanges]
  grind

theorem isSpace_of_letter {char : Char} (letter : Text.isAsciiLetter char = true) :
    Text.isSpace char = false := by
  rw [Text.isAsciiLetter_iff] at letter
  simp only [Text.isSpace, Text.inRanges, Text.spaceRanges]
  grind

/-- A text spells the tokens that it is cut into, and all of them fit. -/
def Spells (text : String) (tokens : List Token) : Prop :=
  tokenize text.toList = some tokens ∧ ∀ token ∈ tokens, token.Fits

theorem Spells.reads {text : String} {tokens : List Token} (spells : Spells text tokens) :
    Reads (skip text.toList) tokens [] :=
  reads_iff_tokenize.mpr spells

/-- A text that one cut takes as a whole spells one token. -/
theorem spells_of_cut? {text : String} {token : Token} {char : Char} {rest : List Char}
    (begins : text.toList = char :: rest) (visible : Text.isSpace char = false)
    (found : cut? (char :: rest) = some (token, [])) (fits : token.Fits) :
    Spells text [token] := by
  refine ⟨?_, by simpa using fits⟩
  rw [begins, tokenize_of_cut? (by simp [skip, visible]) found,
    tokenize_of_skip_nil (by rfl)]
  rfl

theorem spells_word {word : String} (isWord : Text.isWord word = true) :
    Spells word [.name word] := by
  obtain ⟨char, rest, begins, letter, letters⟩ := Text.isWord_cons isWord
  refine spells_of_cut? begins (isSpace_of_letter letter) ?_ trivial
  have digit := Text.isAsciiDigit_of_letter letter
  have word : String.ofList (char :: rest) = word := by rw [← begins, String.ofList_toList]
  simp only [cut?, digit, letter, List.takeWhile_eq_self_iff.mpr letters,
    List.dropWhile_eq_nil_iff.mpr letters, word]
  rfl

theorem spells_reference {name : String} (isWord : Text.isWord name = true) :
    Spells (":" ++ name) [.reference name] := by
  obtain ⟨char, rest, begins, letter, letters⟩ := Text.isWord_cons isWord
  have text : (":" ++ name).toList = ':' :: name.toList := by simp
  refine spells_of_cut? text (by decide) ?_ trivial
  have word := Text.letters_of_isWord isWord
  have colon : Text.isAsciiDigit ':' = false ∧ Text.isAsciiLetter ':' = false := by decide
  have nonempty : name.toList.isEmpty = false := by rw [begins, List.isEmpty_cons]
  simp only [cut?, colon, List.takeWhile_eq_self_iff.mpr word, List.dropWhile_eq_nil_iff.mpr word,
    String.ofList_toList, nonempty]
  rfl

theorem spells_literal {text : String} {digits : List Char} (same : text.toList = digits)
    (nonempty : digits ≠ []) (passes : ∀ char ∈ digits, Text.isAsciiDigit char = true)
    (short : digits.length ≤ maxDigits) : Spells text [.literal digits] := by
  obtain ⟨char, rest, rfl⟩ := List.exists_cons_of_ne_nil nonempty
  obtain ⟨digit, others⟩ := List.forall_mem_cons.mp passes
  refine spells_of_cut? same (isSpace_of_digit digit) ?_ short
  simp [cut?, digit, List.takeWhile_eq_self_iff.mpr others, List.dropWhile_eq_nil_iff.mpr others]

theorem spells_symbol {char : Char} (isSymbol : char ∈ symbols) :
    Spells (String.singleton char) [.symbol char] := by
  simp only [symbols, List.mem_cons, List.not_mem_nil, or_false] at isSymbol
  rcases isSymbol with rfl | rfl | rfl | rfl | rfl <;>
    exact spells_of_cut? (String.toList_singleton _) (by decide) (by decide) trivial

/-- A blank between two texts separates their tokens. -/
theorem Spells.blank {first second : String} {front back : List Token}
    (head : Spells first front) (tail : Spells second back) :
    Spells (first ++ " " ++ second) (front ++ back) := by
  refine ⟨?_, List.forall_mem_append.mpr ⟨head.2, tail.2⟩⟩
  have text : (first ++ " " ++ second).toList = first.toList ++ ' ' :: second.toList := by simp
  rw [text]
  apply tokenize_append head.1 separates_blank
  rw [tokenize_space_cons (by decide), tail.1]

/-- A sign between blanks separates the tokens of its operands. -/
theorem Spells.operator {first second sign : String} {front back : List Token}
    (head : Spells first front) (char : Char) (spaced : sign = " " ++ String.singleton char ++ " ")
    (isSymbol : char ∈ symbols) (tail : Spells second back) :
    Spells (first ++ sign ++ second) (front ++ .symbol char :: back) := by
  have joined : first ++ sign ++ second =
      first ++ " " ++ (String.singleton char ++ " " ++ second) := by
    simp only [spaced, String.append_assoc]
  rw [joined]
  exact head.blank ((spells_symbol isSymbol).blank tail)

/-- Brackets around a text stand around its tokens. -/
theorem Spells.brackets {text : String} {tokens : List Token} (spells : Spells text tokens) :
    Spells ("[" ++ text ++ "]") (.symbol '[' :: (tokens ++ [.symbol ']'])) := by
  have closing := spells_symbol (by decide : ']' ∈ symbols)
  have inside : tokenize (text.toList ++ [']']) = some (tokens ++ [.symbol ']']) :=
    tokenize_append spells.1 separates_closing (by simpa using closing.1)
  constructor
  · have whole : ("[" ++ text ++ "]").toList = '[' :: (text.toList ++ [']']) := by simp
    have opening : cut? ('[' :: (text.toList ++ [']'])) =
        some (.symbol '[', text.toList ++ [']']) := by
      simp [cut?, symbols, show Text.isAsciiDigit '[' = false by decide,
        show Text.isAsciiLetter '[' = false by decide]
    rw [whole, tokenize_of_cut? (by simp [skip, show Text.isSpace '[' = false by decide]) opening,
      inside]
    rfl
  · intro token member
    simp only [List.mem_cons, List.mem_append, List.not_mem_nil, or_false] at member
    rcases member with rfl | inner | rfl
    · trivial
    · exact spells.2 token inner
    · trivial

end Token

end Turtle
