import Turtle.Proofs.Diagnostic.Position
import Turtle.Proofs.Grammar.Continuation

/-
This file tells when a command that touches its operand is reported with the hint to separate them.
The hint is made from the quoted snippet, which holds twelve characters at most, and only a blank
ends the word in it, so a long operand is cut off and another kind of white space hides the operand.
-/

namespace Turtle

namespace Text

theorem isAlphanumeric_of_digit {char : Char} (digit : isAsciiDigit char = true) :
    isAlphanumeric char = true := by
  rw [isAsciiDigit_iff] at digit
  unfold isAlphanumeric
  generalize char.toNat = code at digit ⊢
  obtain ⟨low, high⟩ := digit
  interval_cases code <;> decide +kernel

/-- A front without such characters is kept when the end of a text loses them. -/
theorem rdropWhile_append {test : Char → Bool} {front : List Char}
    (solid : ∀ char ∈ front, test char = false) (text : List Char) :
    (front ++ text).rdropWhile test = front ++ text.rdropWhile test := by
  induction text using List.reverseRecOn with
  | nil =>
      rw [List.append_nil, List.rdropWhile_nil, List.append_nil, List.rdropWhile_eq_self_iff]
      intro nonempty
      simp [solid _ (List.getLast_mem nonempty)]
  | append_singleton rest char inductionHypothesis =>
      rw [← List.append_assoc]
      by_cases passes : test char
      · rw [List.rdropWhile_concat_pos _ _ _ passes, List.rdropWhile_concat_pos _ _ _ passes,
          inductionHypothesis]
      · rw [List.rdropWhile_concat_neg _ _ _ passes, List.rdropWhile_concat_neg _ _ _ passes,
          List.append_assoc]

theorem stripWhile_append {test : Char → Bool} {front : List Char} (nonempty : front ≠ [])
    (solid : ∀ char ∈ front, test char = false) (text : List Char) :
    stripWhile test (front ++ text) = front ++ text.rdropWhile test := by
  obtain ⟨char, rest, rfl⟩ := List.exists_cons_of_ne_nil nonempty
  have first : test char = false := solid char List.mem_cons_self
  rw [stripWhile, List.cons_append, List.dropWhile_cons_of_neg (by simp [first]),
    ← List.cons_append]
  exact rdropWhile_append solid text

/-- A solid text holds neither white space nor quotes. -/
def Solid (text : List Char) : Prop :=
  ∀ char ∈ text, isSpace char = false ∧ char ≠ '\''

namespace Solid

variable {text : List Char} (solid : Solid text)

include solid

theorem visible : ∀ char ∈ text, isSpace char = false :=
  fun char member => (solid char member).1

theorem unquoted : ∀ char ∈ text, (char == '\'') = false :=
  fun char member => by simpa using (solid char member).2

theorem plain : Plain text :=
  fun member => ne_lineFeed (solid.visible _ member) rfl

theorem unbroken : ∀ char ∈ text, (char != ' ') = true := by
  intro char member
  rw [bne_iff_ne]
  rintro rfl
  exact absurd (solid.visible _ member) (by decide)

theorem take (count : Nat) : Solid (text.take count) :=
  fun char member => solid char (List.mem_of_mem_take member)

end Solid

theorem solid_of_letters {text : List Char}
    (letters : ∀ char ∈ text, isAsciiLetter char = true) : Solid text := by
  intro char member
  refine ⟨Token.isSpace_of_letter (letters char member), ?_⟩
  rintro rfl
  exact absurd (letters _ member) (by decide)

theorem solid_of_digits {text : List Char}
    (digits : ∀ char ∈ text, isAsciiDigit char = true) : Solid text := by
  intro char member
  refine ⟨Token.isSpace_of_digit (digits char member), ?_⟩
  rintro rfl
  exact absurd (digits _ member) (by decide)

end Text

/-- A reserved word stands right before the digits of its operand. -/
structure Glued (word : String) (digits : List Char) : Prop where
  reserved : word ∈ reservedWords
  nonempty : digits ≠ []
  numeric : ∀ char ∈ digits, Text.isAsciiDigit char = true

namespace Glued

open Token

variable {word : String} {digits : List Char} (glued : Glued word digits)

include glued

theorem isWord : Text.isWord word = true := by
  have words : ∀ word ∈ reservedWords, Text.isWord word = true := by decide
  exact words word glued.reserved

theorem length_word : word.length ≤ 6 := by
  have short : ∀ word ∈ reservedWords, word.length ≤ 6 := by decide
  exact short word glued.reserved

theorem solid_word : Text.Solid word.toList :=
  Text.solid_of_letters (Text.letters_of_isWord glued.isWord)

/-- The word and the operand hold letters and digits only. -/
theorem solid : Text.Solid (word.toList ++ digits) :=
  List.forall_mem_append.mpr ⟨glued.solid_word, Text.solid_of_digits glued.numeric⟩

/-- No token can be cut off where a word touches digits. -/
theorem cut?_eq_none (after : List Char) : cut? (word.toList ++ (digits ++ after)) = none := by
  obtain ⟨char, rest, begins, letter, letters⟩ := Text.isWord_cons glued.isWord
  obtain ⟨digit, others, rfl⟩ := List.exists_cons_of_ne_nil glued.nonempty
  have numeric := glued.numeric digit List.mem_cons_self
  have behind : (rest ++ (digit :: others ++ after)).dropWhile Text.isAsciiLetter =
      digit :: others ++ after := by
    rw [List.dropWhile_append_of_pos letters, List.cons_append,
      List.dropWhile_cons_of_neg (by simp [Text.isAsciiLetter_of_digit numeric])]
  rw [begins, List.cons_append, cut?]
  simp only [Text.isAsciiDigit_of_letter letter, letter, behind, Bool.false_eq_true, if_false,
    if_true]
  simp [Text.isAlphanumeric_of_digit numeric]

/-- Behind a closed text, the word is where the text is refused. -/
theorem read {levels : Nat} {before : String} (closed : Program.Closed (levels + 1) before)
    (after filename : String) :
    Program.read (levels + 1) (before ++ word ++ String.ofList digits ++ after) filename =
      .error (.diagnosed (.inFile (before.toList ++ (word.toList ++ (digits ++ after.toList)))
        filename before.length "Invalid statement" reservedWords)) := by
  have whole : before ++ word ++ String.ofList digits ++ after =
      String.ofList (before.toList ++ (word.toList ++ (digits ++ after.toList))) := by
    simp [← String.toList_inj]
  have missing := glued.cut?_eq_none after.toList
  obtain ⟨char, rest, begins, letter, -⟩ := Text.isWord_cons glued.isWord
  have visible := isSpace_of_letter letter
  rw [begins, List.cons_append] at missing
  have stuck : Avoids extendsRun (char :: (rest ++ (digits ++ after.toList))) := by
    intro token behind found
    simp [scan, missing] at found
  obtain ⟨nodes, run⟩ := closed.statementRun (by simp [skip, visible]) stuck
  rw [whole, begins, List.cons_append, ← String.length_toList]
  exact Program.read_of_run visible run filename

end Glued

namespace Diagnostic

/-- The hint puts a blank between a command and its operand. -/
def separation (word : String) (digits : List Char) : String :=
  s!"Separate the command from its operand: '{word} " ++ String.ofList digits ++ "'"

theorem toList_separation (word : String) (digits : List Char) :
    (separation word digits).toList = "Separate the command from its operand: '".toList ++
      (word.toList ++ ' ' :: (digits ++ ['\''])) := by
  have whole : separation word digits = "Separate the command from its operand: '" ++ word ++ " " ++
      String.ofList digits ++ "'" := rfl
  rw [whole]
  simp only [String.toList_append, String.toList_ofList, List.append_assoc]
  rfl

/-- A blank ends the word in the hint. -/
theorem separation_inj {word other : String} {digits others : List Char}
    (solid : Text.Solid word.toList) (solidOther : Text.Solid other.toList)
    (same : separation word digits = separation other others) :
    word = other ∧ digits = others := by
  have chars := congrArg String.toList same
  rw [toList_separation, toList_separation, List.append_cancel_left_eq] at chars
  obtain ⟨words, rest⟩ := run_unique chars solid.unbroken solidOther.unbroken rfl rfl
  simp only [List.cons.injEq, true_and, List.append_cancel_right_eq] at rest
  exact ⟨String.toList_inj.mp words, rest⟩

/-- What the snippet shows of the text behind the first characters of its line. -/
def shown (count : Nat) (after : List Char) : List Char :=
  (after.takeWhile (· != '\n')).take (12 - count)

theorem shown_of_le {count : Nat} (long : 12 ≤ count) (after : List Char) :
    shown count after = [] := by
  rw [shown, Nat.sub_eq_zero_of_le long, List.take_zero]

/-- The end of a snippet loses its white space and then its quotes. -/
def trimmed (text : List Char) : List Char :=
  (text.rdropWhile Text.isSpace).rdropWhile (· == '\'')

theorem foundWord_quoted {got : String} {snippet : List Char}
    (quoted : got.toList = '\'' :: snippet) :
    foundWord got = (Text.stripWhile (· == '\'') snippet).takeWhile (· != ' ') := by
  rw [foundWord, quoted]
  rfl

/-- A solid front of a snippet belongs to the word that is found, and so does what follows up to the
first blank. -/
theorem foundWord_foundAt {text front after : List Char} {location : Nat}
    (found : text.drop location = front ++ after) (nonempty : front ≠ [])
    (solid : Text.Solid front) :
    foundWord (foundAt text location) =
      front.take 12 ++ (trimmed (shown front.length after)).takeWhile (· != ' ') := by
  have line : ((front ++ after).takeWhile (· != '\n')).take 12 =
      front.take 12 ++ shown front.length after := by
    rw [List.takeWhile_append_of_pos solid.plain.bne_eq_true, List.take_append, shown]
  have part := solid.take 12
  have some : front.take 12 ≠ [] := by simpa using nonempty
  obtain ⟨char, rest, begins⟩ := List.exists_cons_of_ne_nil nonempty
  have quotes : Quotes (.some (foundAt text location)) (text.drop location) :=
    foundAt_quotes (found.trans (by rw [begins, List.cons_append]))
      (solid.visible char (by simp [begins]))
  obtain ⟨snippet, stripped, -, -, got⟩ := quotes
  rw [found, line, Text.strip, Text.stripWhile_append some part.visible] at stripped
  have chars : (foundAt text location).toList = '\'' :: (snippet ++ ['\'']) := by
    rw [Option.some.inj got]
    simp
  rw [foundWord_quoted chars, stripped, List.append_assoc,
    Text.stripWhile_append some part.unquoted, List.rdropWhile_concat_pos _ _ _ (by simp),
    List.takeWhile_append_of_pos part.unbroken, trimmed]

/-- Behind the solid characters the found word goes on, unless a blank follows them or nothing but
white space is shown. -/
theorem takeWhile_trimmed_eq_nil_iff {after : List Char}
    (apart : after.head?.all Text.isSpace = true) (count : Nat) :
    (trimmed (shown count after)).takeWhile (· != ' ') = [] ↔
      after.head? = some ' ' ∨ Text.Blank (shown count after) := by
  have begins : shown count after <+: after :=
    (List.take_prefix _ _).trans (List.takeWhile_prefix _)
  cases part : shown count after with
  | nil => simp [trimmed, Text.Blank]
  | cons char more =>
      rw [part] at begins
      obtain ⟨behind, rfl⟩ := begins
      have space : Text.isSpace char = true := by simpa using apart
      by_cases blank : Text.Blank (char :: more)
      · have nothing : (char :: more).rdropWhile Text.isSpace = [] :=
          List.rdropWhile_eq_nil_iff.mpr blank
        simp [trimmed, nothing, blank]
      · -- What is left begins with the same white space, which is no quote.
        obtain ⟨kept, left⟩ :
            ∃ kept, (char :: more).rdropWhile Text.isSpace = char :: kept := by
          have some := mt List.rdropWhile_eq_nil_iff.mp blank
          obtain ⟨first, kept, left⟩ := List.exists_cons_of_ne_nil some
          have same := List.rdropWhile_prefix Text.isSpace (char :: more)
          rw [left, List.cons_prefix_cons] at same
          exact ⟨kept, by rw [left, same.1]⟩
        have unquoted : ∀ other ∈ [char], (other == '\'') = false := by
          intro other member
          rw [List.mem_singleton.mp member, beq_eq_false_iff_ne]
          rintro rfl
          exact absurd space (by decide)
        have trim : trimmed (char :: more) = char :: kept.rdropWhile (· == '\'') := by
          rw [trimmed, left]
          exact Text.rdropWhile_append unquoted kept
        rw [trim]
        by_cases single : char = ' '
        · simp [single]
        · simp [single, blank]

/-- The hint is made from the found word when digits end it behind a reserved word. -/
def separations (found : List Char) : List String :=
  let bare := found.rdropWhile Text.isAsciiDigit
  if bare.length != found.length && reservedWords.contains (String.ofList bare) then
    [separation (String.ofList bare) (found.drop bare.length)]
  else []

/-- The other hints begin with other letters. -/
theorem hints_eq (text : List Char) (got : String) :
    ∃ before behind,
      hints text got reservedWords = before ++ separations (foundWord got) ++ behind ∧
      ∀ hint ∈ before ++ behind, hint.toList.head? ≠ some 'S' := by
  refine ⟨_, _, List.append_assoc _ _ _, ?_⟩
  intro hint member
  simp only [List.mem_append] at member
  rcases member with named | unclosed | brackets
  · obtain ⟨name, -, rfl⟩ := List.mem_map.mp named
    have quoted : s!"'{name}' is a reserved word and cannot name a procedure" =
        "'" ++ name ++ "' is a reserved word and cannot name a procedure" := rfl
    simp [quoted]
  · split_ifs at unclosed with missing lone
    · simp [List.mem_singleton.mp unclosed]
    · simp [List.mem_singleton.mp unclosed]
    · cases unclosed
  · split_ifs at brackets with unbalanced
    · simp [List.mem_singleton.mp brackets]
    · cases brackets

theorem separation_mem_hints_iff {text : List Char} {got word : String} {digits : List Char} :
    separation word digits ∈ hints text got reservedWords ↔
      separation word digits ∈ separations (foundWord got) := by
  obtain ⟨before, behind, whole, others⟩ := hints_eq text got
  have first : (separation word digits).toList.head? = some 'S' := by
    rw [toList_separation]
    simp
  have missing : separation word digits ∉ before ++ behind :=
    fun member => others _ member first
  rw [List.mem_append, not_or] at missing
  rw [whole, List.mem_append, List.mem_append]
  simp [missing]

/-- The hint for a command and its operand is made from these two. -/
theorem separation_mem_iff {word : String} {digits found : List Char}
    (glued : Glued word digits) :
    separation word digits ∈ separations found ↔ found = word.toList ++ digits := by
  constructor
  · intro member
    simp only [separations] at member
    split_ifs at member with ends
    · rw [Bool.and_eq_true, List.contains_iff_mem] at ends
      have split := List.prefix_iff_eq_append.mp
        (List.rdropWhile_prefix Text.isAsciiDigit found)
      have other : Glued (String.ofList (found.rdropWhile Text.isAsciiDigit)) digits :=
        ⟨ends.2, glued.nonempty, glued.numeric⟩
      obtain ⟨rfl, operand⟩ := separation_inj glued.solid_word other.solid_word
        (List.mem_singleton.mp member)
      rw [String.toList_ofList, operand, split]
    · cases member
  · rintro rfl
    have letters : ∀ char ∈ word.toList, Text.isAsciiDigit char = false := fun char member =>
      Text.isAsciiDigit_of_letter (Text.letters_of_isWord glued.isWord char member)
    have bare : (word.toList ++ digits).rdropWhile Text.isAsciiDigit = word.toList := by
      rw [Text.rdropWhile_append letters, List.rdropWhile_eq_nil_iff.mpr glued.numeric,
        List.append_nil]
    simp only [separations, bare, String.ofList_toList, List.drop_left]
    rw [if_pos (by simpa using ⟨glued.nonempty, glued.reserved⟩)]
    exact List.mem_singleton_self _

end Diagnostic

namespace Glued

variable {word : String} {digits after text : List Char} {location : Nat}

theorem length_append_digits (word : String) (digits : List Char) :
    (word.toList ++ digits).length = word.length + digits.length := by
  rw [List.length_append, String.length_toList]

theorem foundWord_eq (glued : Glued word digits)
    (found : text.drop location = word.toList ++ (digits ++ after)) :
    Diagnostic.foundWord (Diagnostic.foundAt text location) = (word.toList ++ digits).take 12 ++
      (Diagnostic.trimmed (Diagnostic.shown (word.length + digits.length) after)).takeWhile
        (· != ' ') := by
  rw [← length_append_digits]
  refine Diagnostic.foundWord_foundAt ?_ ?_ glued.solid
  · rw [found, List.append_assoc]
  · simp [glued.nonempty]

/-- The whole operand stands in the hint exactly when it fits into the snippet and is followed there
by a blank or by nothing visible. -/
theorem separation_iff (glued : Glued word digits)
    (found : text.drop location = word.toList ++ (digits ++ after))
    (apart : after.head?.all Text.isSpace = true) :
    Diagnostic.separation word digits ∈
        Diagnostic.hints text (Diagnostic.foundAt text location) reservedWords ↔
      word.length + digits.length ≤ 12 ∧
        (after.head? = some ' ' ∨
          Text.Blank (Diagnostic.shown (word.length + digits.length) after)) := by
  have size := length_append_digits word digits
  rw [Diagnostic.separation_mem_hints_iff, Diagnostic.separation_mem_iff glued,
    glued.foundWord_eq found, ← Diagnostic.takeWhile_trimmed_eq_nil_iff apart]
  by_cases fits : word.length + digits.length ≤ 12
  · rw [List.take_of_length_le (by omega), List.append_right_eq_self]
    simp [fits]
  · have nothing := Diagnostic.shown_of_le (Nat.le_of_not_le fits) after
    simp only [fits, false_and, iff_false]
    intro same
    have lengths := congrArg List.length same
    simp only [nothing, Diagnostic.trimmed, List.rdropWhile_nil, List.takeWhile_nil,
      List.append_nil, List.length_take] at lengths
    omega

/-- An operand that is too long is cut off in the hint. -/
theorem separation_clipped (glued : Glued word digits)
    (found : text.drop location = word.toList ++ (digits ++ after))
    (long : 12 < word.length + digits.length) :
    Diagnostic.separation word (digits.take (12 - word.length)) ∈
      Diagnostic.hints text (Diagnostic.foundAt text location) reservedWords := by
  have short := glued.length_word
  have part : Glued word (digits.take (12 - word.length)) := by
    refine ⟨glued.reserved, ?_, fun char member => glued.numeric char (List.mem_of_mem_take member)⟩
    rw [Ne, List.take_eq_nil_iff, not_or]
    exact ⟨by omega, glued.nonempty⟩
  have nothing := Diagnostic.shown_of_le (Nat.le_of_lt long) after
  have whole : word.toList.take 12 = word.toList :=
    List.take_of_length_le (by rw [String.length_toList]; omega)
  rw [Diagnostic.separation_mem_hints_iff, Diagnostic.separation_mem_iff part,
    glued.foundWord_eq found, nothing]
  simp [Diagnostic.trimmed, List.take_append, whole, String.length_toList]

end Glued

/-- A command that touches its operand, behind a closed text and before white space or the end, is
reported where it begins. The hint to separate the two holds the whole operand exactly when both fit
into twelve characters and what the snippet shows behind them begins with a blank or is white space
only. A longer operand is cut off in the hint. -/
theorem glued_operand_hint (levels : Nat) (before word after filename : String)
    (digits : List Char) (closed : Program.Closed (levels + 1) before) (glued : Glued word digits)
    (apart : after.toList.head?.all Text.isSpace = true) :
    ∃ diagnostic,
      Program.read (levels + 1) (before ++ word ++ String.ofList digits ++ after) filename =
        .error (.diagnosed diagnostic) ∧
      diagnostic.location = before.length ∧
      diagnostic.message = filename ++ ": " ++ "Invalid statement" ∧
      (Diagnostic.separation word digits ∈ diagnostic.suggestions ↔
        word.length + digits.length ≤ 12 ∧
          (after.toList.head? = some ' ' ∨
            Text.Blank (Diagnostic.shown (word.length + digits.length) after.toList))) ∧
      (12 < word.length + digits.length →
        Diagnostic.separation word (digits.take (12 - word.length)) ∈
          diagnostic.suggestions) := by
  let text := before.toList ++ (word.toList ++ (digits ++ after.toList))
  have offset : Diagnostic.offset text before.length = before.length :=
    Diagnostic.offset_natCast text before.length
  have found : text.drop (Diagnostic.offset text before.length) =
      word.toList ++ (digits ++ after.toList) := by
    rw [offset, ← String.length_toList]
    exact List.drop_left
  exact ⟨_, glued.read closed after filename, rfl, rfl, glued.separation_iff found apart,
    glued.separation_clipped found⟩

theorem glued_operand_hint_behindForward :
    ∃ diagnostic,
      Program.read 1 "fd 10 repeat45 fd 1" "<input>" = .error (.diagnosed diagnostic) ∧
      diagnostic.location = 6 ∧
      "Separate the command from its operand: 'repeat 45'" ∈ diagnostic.suggestions := by
  have ten : "fd 10" = "fd " ++ toString 10 := by decide +kernel
  have forward : Program.read 1 "fd 10" "<input>" = .ok (.forward (.const (.whole 10))) := by
    rw [ten]
    exact Program.read_forward 0 10 (by decide +kernel) "<input>"
  have closed : Program.Closed 1 ("fd 10" ++ String.singleton ' ') :=
    Program.closed_of_read forward (by decide)
  have glued : Glued "repeat" ['4', '5'] :=
    ⟨by decide, by decide, List.all_eq_true.mp (by decide)⟩
  obtain ⟨diagnostic, failed, location, -, hint, -⟩ :=
    glued_operand_hint 0 _ _ " fd 1" "<input>" _ closed glued (by decide)
  exact ⟨diagnostic, failed, location, hint.mpr ⟨by decide, .inl (by decide)⟩⟩

/-- The seventh digit does not fit into the snippet, and a tab does not end the word in it. -/
theorem glued_operand_lost :
    (∃ diagnostic,
      Program.read (levelsWithin baseFrames) "repeat1234567" "<input>" =
        .error (.diagnosed diagnostic) ∧
      diagnostic.location = 0 ∧
      "Separate the command from its operand: 'repeat 1234567'" ∉ diagnostic.suggestions ∧
      "Separate the command from its operand: 'repeat 123456'" ∈ diagnostic.suggestions) ∧
    ∃ diagnostic,
      Program.read (levelsWithin baseFrames) "fd20\tfd 5" "<input>" =
        .error (.diagnosed diagnostic) ∧
      diagnostic.location = 0 ∧
      "Separate the command from its operand: 'fd 20'" ∉ diagnostic.suggestions := by
  have empty : Program.Closed (141 + 1) "" := .inl rfl
  have long : Glued "repeat" "1234567".toList :=
    ⟨by decide, by decide, List.all_eq_true.mp (by decide)⟩
  have short : Glued "fd" "20".toList :=
    ⟨by decide, by decide, List.all_eq_true.mp (by decide)⟩
  constructor
  · have found : "repeat1234567".toList.drop 0 = "repeat".toList ++ ("1234567".toList ++ []) := by
      decide
    refine ⟨_, long.read empty "" "<input>", rfl, ?_, long.separation_clipped found (by decide)⟩
    refine mt (long.separation_iff found (by decide)).mp ?_
    rintro ⟨fits, -⟩
    exact absurd fits (by decide)
  · have found : "fd20\tfd 5".toList.drop 0 = "fd".toList ++ ("20".toList ++ "\tfd 5".toList) := by
      decide
    refine ⟨_, short.read empty "\tfd 5" "<input>", rfl, ?_⟩
    refine mt (short.separation_iff found (by decide)).mp ?_
    rintro ⟨-, blank | spaces⟩
    · exact absurd blank (by decide)
    · exact absurd (spaces 'f' (by decide)) (by decide)

end Turtle
