import Turtle.Proofs.Diagnostic.Context

/-
This file compares what a diagnostic tells about its place with the text at that place: the line and
the column, the quoted snippet, and the underline below the token.
-/

namespace Turtle

namespace Text

theorem isDecimal_of_digit {char : Char} (digit : isAsciiDigit char = true) :
    isDecimal char = true := by
  rw [isAsciiDigit_iff] at digit
  simp only [isDecimal, decimalRanges, inRanges]
  rw [if_neg (by omega), if_pos digit.2]

theorem isDecimal_of_letter {char : Char} (letter : isAsciiLetter char = true) :
    isDecimal char = false := by
  rw [isAsciiLetter_iff] at letter
  simp only [isDecimal, decimalRanges, inRanges]
  rw [if_neg (by omega), if_neg (by omega), if_pos (by omega)]

/-- A front whose characters pass a test is part of the longest such front. -/
theorem prefix_takeWhile {test : Char → Bool} {front text : List Char} (begins : front <+: text)
    (passes : ∀ char ∈ front, test char = true) : front <+: text.takeWhile test := by
  obtain ⟨rest, rfl⟩ := begins
  rw [List.takeWhile_append_of_pos passes]
  exact List.prefix_append _ _

/-- A text that begins with a visible character loses white space at its end only. -/
theorem strip_cons {char : Char} (visible : isSpace char = false) (rest : List Char) :
    strip (char :: rest) <+: char :: rest ∧ strip (char :: rest) ≠ [] := by
  constructor
  · rw [strip, stripWhile, List.dropWhile_cons_of_neg (by simp [visible])]
    exact List.rdropWhile_prefix isSpace (char :: rest)
  · intro empty
    have blank := strip_isEmpty_iff.mp (List.isEmpty_iff.mpr empty)
    rw [blank char (by simp)] at visible
    cases visible

end Text

namespace Token

/-- The lexeme at the front of a text is a run of digits, a run of letters, a colon with the letters
that touch it, or else one character. -/
def lexeme : List Char → List Char
  | [] => []
  | char :: rest =>
      if Text.isAsciiDigit char then char :: rest.takeWhile Text.isAsciiDigit
      else if Text.isAsciiLetter char || char == ':' then
        char :: rest.takeWhile Text.isAsciiLetter
      else [char]

/-- A token takes the lexeme from the front of the text. -/
theorem lexeme_append_of_cut? {text behind : List Char} {token : Token}
    (found : cut? text = some (token, behind)) : lexeme text ++ behind = text := by
  cases text with
  | nil => cases found
  | cons char rest =>
      simp only [cut?] at found
      split_ifs at found <;> cases found <;> simp_all [lexeme]

theorem lexeme_front (text : List Char) : lexeme text <+: text := by
  cases text with
  | nil => exact List.nil_prefix
  | cons char rest =>
      simp only [lexeme]
      split_ifs
      · exact List.cons_prefix_cons.mpr ⟨rfl, List.takeWhile_prefix _⟩
      · exact List.cons_prefix_cons.mpr ⟨rfl, List.takeWhile_prefix _⟩
      · exact List.cons_prefix_cons.mpr ⟨rfl, List.nil_prefix⟩

/-- A lexeme that begins with a visible character stands on one line. -/
theorem plain_lexeme {char : Char} (visible : Text.isSpace char = false) (rest : List Char) :
    Text.Plain (lexeme (char :: rest)) := by
  have solid := (Text.ne_lineFeed visible).symm
  have digits : '\n' ∉ rest.takeWhile Text.isAsciiDigit :=
    fun member => absurd (List.mem_takeWhile_imp member) (by decide)
  have letters : '\n' ∉ rest.takeWhile Text.isAsciiLetter :=
    fun member => absurd (List.mem_takeWhile_imp member) (by decide)
  simp only [Text.Plain, lexeme]
  split_ifs <;> simp [solid, digits, letters]

section

variable {char : Char} (decimal : Text.isDecimal char = true) (rest : List Char)

include decimal

/-- A decimal digit begins no word and no variable. -/
theorem not_word_of_decimal : Text.isAsciiLetter char = false ∧ char ≠ ':' := by
  constructor
  · rw [Bool.eq_false_iff]
    intro letter
    rw [Text.isDecimal_of_letter letter] at decimal
    cases decimal
  · rintro rfl
    exact absurd decimal (by decide)

/-- A decimal digit that is not an ASCII digit is a lexeme of its own. -/
theorem lexeme_of_decimal (foreign : Text.isAsciiDigit char = false) :
    lexeme (char :: rest) = [char] := by
  obtain ⟨letter, colon⟩ := not_word_of_decimal decimal
  simp [lexeme, foreign, letter, colon]

/-- The lexeme of a number is part of the run of decimal digits. -/
theorem lexeme_within_decimals :
    lexeme (char :: rest) <+: (char :: rest).takeWhile Text.isDecimal := by
  apply Text.prefix_takeWhile (lexeme_front _)
  intro other member
  by_cases digit : Text.isAsciiDigit char
  · simp only [lexeme, digit, if_true, List.mem_cons] at member
    rcases member with rfl | inside
    · exact decimal
    · exact Text.isDecimal_of_digit (List.mem_takeWhile_imp inside)
  · rw [lexeme_of_decimal decimal rest (by simpa using digit), List.mem_singleton] at member
    rwa [member]

end

end Token

namespace Diagnostic

open Token

variable {text rest : List Char} {location : Nat} {char : Char}

/-- A token is as wide as its lexeme, or as the run of decimal digits of any script where that is
longer. -/
theorem tokenWidth_eq_max (found : text.drop location = char :: rest) :
    tokenWidth text location = max (lexeme (char :: rest)).length
      ((char :: rest).takeWhile Text.isDecimal).length := by
  rw [tokenWidth, found]
  by_cases decimal : Text.isDecimal char
  · obtain ⟨letter, colon⟩ := not_word_of_decimal decimal
    rw [Nat.max_eq_right (lexeme_within_decimals decimal rest).length_le]
    simp [letter, colon, decimal, Nat.add_comm]
  · have digit : Text.isAsciiDigit char = false := by
      rw [Bool.eq_false_iff]
      exact mt Text.isDecimal_of_digit decimal
    -- There is no run of decimal digits, and the letters and the colon are told apart alike.
    rw [List.takeWhile_cons_of_neg decimal, List.length_nil, Nat.max_zero]
    simp only [lexeme, digit, decimal]
    split_ifs <;> simp_all [Nat.add_comm]

/-- The run of decimal digits is longer than the lexeme when it holds a digit that is not an ASCII
digit, except for one digit alone. -/
theorem decimals_le_lexeme_iff :
    ((char :: rest).takeWhile Text.isDecimal).length ≤ (lexeme (char :: rest)).length ↔
      (∀ digit ∈ (char :: rest).takeWhile Text.isDecimal, Text.isAsciiDigit digit = true) ∨
        ((char :: rest).takeWhile Text.isDecimal).length ≤ 1 := by
  by_cases decimal : Text.isDecimal char
  · have begins := lexeme_within_decimals decimal rest
    by_cases digit : Text.isAsciiDigit char
    · have run : lexeme (char :: rest) = (char :: rest).takeWhile Text.isAsciiDigit := by
        simp [lexeme, digit]
      -- The literal is a front of the run, so it is as long only if it is the run.
      constructor
      · intro short
        left
        rw [← begins.eq_of_length_le short, run]
        exact fun _ => List.mem_takeWhile_imp
      · rintro (ascii | single)
        · rw [run]
          exact (Text.prefix_takeWhile (List.takeWhile_prefix _) ascii).length_le
        · refine single.trans ?_
          simp [lexeme, digit]
    · rw [lexeme_of_decimal decimal rest (by simpa using digit)]
      simp [decimal, digit]
  · simp [decimal]

/-- The underline does not run past the end of its line. -/
theorem tokenWidth_le (found : text.drop location = char :: rest)
    (visible : Text.isSpace char = false) :
    tokenWidth text location ≤ ((text.drop location).takeWhile (· != '\n')).length := by
  have lexemes := Text.prefix_takeWhile (lexeme_front (char :: rest))
    (plain_lexeme visible rest).bne_eq_true
  have decimals : (char :: rest).takeWhile Text.isDecimal <+:
      (char :: rest).takeWhile (· != '\n') := by
    apply Text.prefix_takeWhile (List.takeWhile_prefix _)
    apply Text.Plain.bne_eq_true
    intro member
    exact absurd (List.mem_takeWhile_imp member) (by decide)
  rw [tokenWidth_eq_max found, found]
  exact Nat.max_le.mpr ⟨lexemes.length_le, decimals.length_le⟩

/-- A quoted snippet is told from a text that does not begin with a quote. -/
theorem quoted_ne {told : String} (bare : told.toList.head? ≠ some '\'') (snippet : List Char) :
    "'" ++ String.ofList snippet ++ "'" ≠ told := by
  rintro rfl
  simp at bare

/-- Nothing visible is left at the end of the input. -/
theorem foundAt_eq_endOfInput_iff (text : List Char) (offset : Nat) :
    foundAt text offset = "end of input" ↔ Text.Blank (text.drop offset) := by
  rw [← Text.strip_isEmpty_iff]
  simp only [foundAt]
  split_ifs with blank short
  · simp [blank]
  · simp [blank]
  · simp only [blank, iff_false, Bool.false_eq_true]
    exact quoted_ne (by decide) _

/-- What was found is the quoted beginning of the text at the error, up to the end of its line. -/
def Quotes (got : Option String) (rest : List Char) : Prop :=
  ∃ snippet, snippet = Text.strip ((rest.takeWhile (· != '\n')).take 12) ∧
    snippet ≠ [] ∧ snippet <+: rest ∧ got = some ("'" ++ String.ofList snippet ++ "'")

/-- A visible character is quoted with at most eleven others that follow it on its line. -/
theorem foundAt_quotes (found : text.drop location = char :: rest)
    (visible : Text.isSpace char = false) :
    Quotes (some (foundAt text location)) (text.drop location) := by
  obtain ⟨more, begins⟩ :
      ∃ more, ((char :: rest).takeWhile (· != '\n')).take 12 = char :: more := by
    rw [List.takeWhile_cons_of_pos (by simpa using Text.ne_lineFeed visible), List.take_succ_cons]
    exact ⟨_, rfl⟩
  have short : char :: more <+: char :: rest := by
    rw [← begins]
    exact (List.take_prefix 12 _).trans (List.takeWhile_prefix _)
  obtain ⟨front, solid⟩ := Text.strip_cons visible more
  obtain ⟨-, remains⟩ := Text.strip_cons visible rest
  have quoted : foundAt text location =
      "'" ++ String.ofList (Text.strip (char :: more)) ++ "'" := by
    rw [foundAt, found]
    simp only [begins, List.isEmpty_iff, remains, solid, if_false]
  rw [found, quoted]
  exact ⟨_, by rw [begins], solid, front.trans short, rfl⟩

theorem Quotes.ne_endOfLine {got : Option String} (quotes : Quotes got rest) :
    got ≠ some "end of line" := by
  obtain ⟨snippet, -, -, -, rfl⟩ := quotes
  exact mt Option.some.inj (quoted_ne (by decide) snippet)

/-- The marker underlines as many characters as the width says, from the column on. -/
def Underlines (marker : String) (column width : Nat) : Prop :=
  ∃ room : List Char, room.length = 7 ∧
    marker.toList = room ++ List.replicate (column - 1) ' ' ++
      '^' :: List.replicate (width - 1) '~'

theorem markerLine_underlines (place : Place) (width : Nat) :
    Underlines (markerLine place.column width) place.column width := by
  obtain ⟨room, size, -, whole⟩ := toList_markerLine place width
  have tildes : ((width : Int) - 1).toNat = width - 1 := by omega
  rw [tildes] at whole
  exact ⟨room, size, whole⟩

end Diagnostic

/-- Every diagnostic of a reading has the line and the column of its location. It tells the end of
the input if and only if the text is blank. For an invalid statement it quotes the text at the
location, and the underline ends on the same line. The underline is as wide as the lexeme at the
location, or as the run of decimal digits there, whichever is longer. So it is wider than the lexeme
if and only if the run has more than one digit and not all of them are ASCII digits. -/
theorem diagnostic_position_faithful (levels : Nat) (text filename : String)
    (diagnostic : Diagnostic)
    (failed : Program.read levels text filename = .error (.diagnosed diagnostic)) :
    ∃ location line column : Nat,
      diagnostic.location = location ∧ diagnostic.line = line ∧ diagnostic.column = column ∧
      Locates (Text.splitLines text.toList) line column location ∧
      (diagnostic.got = some "end of input" ↔ Text.Blank text.toList) ∧
      (diagnostic.message = filename ++ ": " ++ "Invalid statement" →
        let rest := text.toList.drop location
        let decimals := rest.takeWhile Text.isDecimal
        Diagnostic.Quotes diagnostic.got rest ∧ diagnostic.got ≠ some "end of line" ∧
        ∃ (context own marker : String) (content : List Char) (width : Nat),
          diagnostic.context = some context ∧
          Diagnostic.Shows (Text.splitLines text.toList) line context own marker ∧
          Diagnostic.Underlines marker column width ∧
          (Text.splitLines text.toList)[line - 1]? = some content ∧
          column - 1 + width ≤ content.length ∧
          width = max (Token.lexeme rest).length decimals.length ∧
          (width = (Token.lexeme rest).length ↔
            (∀ digit ∈ decimals, Text.isAsciiDigit digit = true) ∨ decimals.length ≤ 1) ∧
          ∀ token behind, Token.cut? rest = some (token, behind) →
            Token.lexeme rest ++ behind = rest) := by
  obtain ⟨place, message, whole, refusal, rfl⟩ := Diagnostic.exists_place_of_read failed
  rw [Diagnostic.inFile_place]
  refine ⟨place.front.length, place.line, place.column, rfl, rfl, rfl, ?_, ?_, ?_⟩
  · rw [← whole, place.splitLines_text]
    exact place.locates
  · rw [← whole, ← refusal.blank_drop_iff, ← Diagnostic.foundAt_eq_endOfInput_iff]
    exact Option.some_inj
  · intro invalid
    obtain ⟨char, more, begins, visible⟩ := Diagnostic.behind_of_invalid refusal invalid
    have found : text.toList.drop place.front.length =
        char :: (more ++ Text.begun place.below) := by
      rw [← whole, List.drop_left, Place.rest, begins, List.cons_append]
    have quotes := Diagnostic.foundAt_quotes found visible
    have width := Diagnostic.tokenWidth_eq_max found
    have within := Diagnostic.tokenWidth_le found visible
    have shows := Diagnostic.contextText_shows place
      (Diagnostic.tokenWidth text.toList place.front.length)
    rw [whole, ← place.splitLines_text, whole] at shows
    rw [whole]
    refine ⟨quotes, quotes.ne_endOfLine, _, _, _, place.content, _, rfl, shows,
      Diagnostic.markerLine_underlines place _, ?_, ?_, ?_, ?_, ?_⟩
    · rw [← whole, place.splitLines_text, place.getElem?_lines]
    · have behind : (text.toList.drop place.front.length).takeWhile (· != '\n') =
          place.behind := by
        rw [← whole, List.drop_left, place.takeWhile_rest]
      rw [behind] at within
      simp only [Place.column, Place.content, List.length_append]
      omega
    · rw [width, found]
    · rw [width, found, max_eq_left_iff, Diagnostic.decimals_le_lexeme_iff]
    · intro token behind
      exact Token.lexeme_append_of_cut?

/-- The end of a definition that has no beginning, on the second line. -/
def lateEnd : String :=
  "\n  end"

theorem Program.read_lateEnd (levels : Nat) :
    Program.read (levels + 1) lateEnd "<input>" =
      .error (.diagnosed (.inFile lateEnd.toList "<input>" 3 "Invalid statement"
        reservedWords)) := by
  have spaces : ∀ char ∈ ['\n', ' ', ' '], Text.isSpace char = true :=
    List.all_eq_true.mp (by decide)
  have stuck : Avoids Token.startsStatement ['e', 'n', 'd'] := by
    intro token rest found
    cases found
    decide
  exact Program.read_of_stuck spaces (by decide) stuck "<input>"

/-- Its three characters are underlined from the third column on. -/
theorem diagnostic_position_faithful_lateEnd :
    ∃ (diagnostic : Diagnostic) (context own marker : String),
      Program.read (levelsWithin baseFrames) lateEnd "<input>" = .error (.diagnosed diagnostic) ∧
      diagnostic.location = 3 ∧ diagnostic.line = 2 ∧ diagnostic.column = 3 ∧
      Locates [[], "  end".toList] 2 3 3 ∧ diagnostic.context = some context ∧
      Diagnostic.Shows [[], "  end".toList] 2 context own marker ∧
      Diagnostic.Underlines marker 3 3 := by
  have failed := Program.read_lateEnd 141
  obtain ⟨location, line, column, atLocation, atLine, atColumn, locates, -, invalid⟩ :=
    diagnostic_position_faithful _ _ _ _ failed
  have lines : Text.splitLines lateEnd.toList = [[], "  end".toList] := by decide
  have here : location = 3 :=
    (congrArg Int.toNat atLocation).symm
  have below : line = 2 :=
    (congrArg Int.toNat atLine).symm
  have right : column = 3 :=
    (congrArg Int.toNat atColumn).symm
  subst here below right
  obtain ⟨-, -, context, own, marker, content, width, shown, shows, underlines, -, -, widest, -⟩ :=
    invalid rfl
  have three : width = 3 := by
    rw [widest]
    decide
  rw [lines] at locates shows
  rw [three] at underlines
  exact ⟨_, context, own, marker, failed, atLocation, atLine, atColumn, locates, shown, shows,
    underlines⟩

/-- A literal that touches a digit of another script is underlined together with it. -/
theorem underline_past_literal :
    ∃ diagnostic : Diagnostic,
      Program.read (levelsWithin baseFrames) "12٣" "<input>" = .error (.diagnosed diagnostic) ∧
      diagnostic.message = "<input>: Invalid statement" ∧ diagnostic.location = 0 ∧
      Token.cut? "12٣".toList = some (.literal ['1', '2'], ['٣']) ∧
      diagnostic.context = some "   1 | 12٣\n     | ^~~" := by
  have stuck : Avoids Token.startsStatement ['1', '2', '٣'] := by
    intro token rest found
    cases found
    decide
  have failed :=
    @Program.read_of_stuck 141 _ _ _ (List.forall_mem_nil _) (by decide) stuck "<input>"
  exact ⟨_, failed, rfl, rfl, by decide +kernel, by decide +kernel⟩

end Turtle
