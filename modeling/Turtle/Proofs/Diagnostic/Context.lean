import Turtle.Proofs.Diagnostic.Place
import Turtle.Proofs.Diagnostic.Rejection

/-
This file compares the two lines that show an error, the numbered line of the text and the marker
below it. The number is padded to four characters and the marker leaves room for as many, so the
marker stands under the error as long as the number has no more digits.
-/

namespace Turtle

namespace Text

theorem toList_repeated (count : Int) (char : Char) :
    (repeated count (String.singleton char)).toList = List.replicate count.toNat char := by
  rw [repeated, String.toList_join]
  induction count.toNat with
  | zero => rfl
  | succ count inductionHypothesis =>
      rw [List.replicate_succ, List.flatMap_cons, inductionHypothesis, List.replicate_succ,
        String.toList_singleton, List.singleton_append]

theorem length_padLeft (width : Nat) (text : String) :
    (padLeft width text).length = max width text.length := by
  simp only [padLeft, String.length_append, String.length_ofList, List.length_replicate]
  omega

end Text

namespace Diagnostic

/-- A line with its index becomes a row of the context. -/
def row (line : List Char × Nat) : String :=
  sourceLine line.2 line.1

/-- The rows from the first to the last of two line numbers. -/
def rows (lines : List (List Char)) (first last : Nat) : List String :=
  ((lines.zipIdx.map row).drop (first - 1)).take (last + 1 - first)

/-- The context of an error shows the numbered lines from the line above the error to the line below
it, and a marker right behind the row of the error. -/
def Shows (lines : List (List Char)) (line : Nat) (context own marker : String) : Prop :=
  ∃ upper lower : List String,
    context = String.intercalate "\n" (upper ++ own :: marker :: lower) ∧
    upper ++ own :: lower = rows lines (max 1 (line - 1)) (min lines.length (line + 1)) ∧
    upper.length + max 1 (line - 1) = line

/-- The items next to one of a list are the last before it and the first behind it. -/
theorem take_drop_around {α : Type} (above : List α) (item : α) (below : List α) :
    ((above ++ item :: below).drop (above.length - 1)).take
        (min (above ++ item :: below).length (above.length + 2) - (above.length - 1)) =
      above.drop (above.length - 1) ++ item :: below.take 1 := by
  have window : min (above ++ item :: below).length (above.length + 2) - (above.length - 1) =
      (above.drop (above.length - 1)).length + (min below.length 1 + 1) := by
    simp only [List.length_append, List.length_cons, List.length_drop]
    omega
  rw [List.drop_append_of_le_length (by omega), window, List.take_length_add_append,
    List.take_succ_cons]
  cases below <;> simp

/-- Only the line of the error has a marker. -/
theorem flatMap_rows {pairs : List (List Char × Nat)} {line : Int} (marker : String)
    (others : ∀ pair ∈ pairs, (pair.2 : Int) ≠ line - 1) :
    (pairs.flatMap fun (content, index) =>
      if (index : Int) == line - 1 then [sourceLine index content, marker]
      else [sourceLine index content]) = pairs.map row := by
  rw [List.map_eq_flatMap]
  apply List.flatMap_congr
  intro pair member
  simp [others pair member, row]

section

variable (place : Place)

/-- The lines of a place with their indices. -/
theorem zipIdx_lines :
    place.lines.zipIdx = place.above.zipIdx ++ (place.content, place.above.length) ::
      place.below.zipIdx (place.above.length + 1) := by
  rw [Place.lines, List.zipIdx_append, List.zipIdx_cons, Nat.zero_add]

/-- The context of a place shows its lines, with the marker under its own line. -/
theorem contextText_shows (width : Int) :
    Shows place.lines place.line
      (contextText (place.front ++ place.rest) place.line place.column width 1)
      (row (place.content, place.above.length)) (markerLine place.column width) := by
  let upper := place.above.zipIdx.drop (place.above.length - 1)
  let lower := (place.below.zipIdx (place.above.length + 1)).take 1
  have around := take_drop_around place.above.zipIdx (place.content, place.above.length)
    (place.below.zipIdx (place.above.length + 1))
  rw [← zipIdx_lines, List.length_zipIdx, List.length_zipIdx] at around
  have upperOthers : ∀ pair ∈ upper, (pair.2 : Int) ≠ place.line - 1 := by
    intro pair member
    have earlier := List.snd_lt_of_mem_zipIdx (List.mem_of_mem_drop member)
    simp only [Place.line]
    omega
  have lowerOthers : ∀ pair ∈ lower, (pair.2 : Int) ≠ place.line - 1 := by
    intro pair member
    have later := List.le_snd_of_mem_zipIdx (List.mem_of_mem_take member)
    simp only [Place.line]
    omega
  -- The window starts and ends at the same indices, whether it is counted in lines or in rows.
  refine ⟨upper.map row, lower.map row, ?_, ?_, ?_⟩
  · have first : (max 0 ((place.line : Int) - 1 - 1)).toNat = place.above.length - 1 := by
      simp only [Place.line]
      omega
    have count : (min (place.lines.length : Int) (place.line + 1) -
        max 0 ((place.line : Int) - 1 - 1)).toNat =
          min place.lines.length (place.above.length + 2) - (place.above.length - 1) := by
      simp only [Place.line]
      omega
    have own : ((place.above.length : Int) == (place.line : Int) - 1) = true := by
      simp [Place.line]
    rw [contextText, place.splitLines_text]
    simp only [first, count, around]
    rw [List.flatMap_append, List.flatMap_cons, flatMap_rows _ upperOthers,
      flatMap_rows _ lowerOthers]
    simp only [own, if_true]
    rfl
  · have window : min place.lines.length (place.line + 1) + 1 - max 1 (place.line - 1) =
        min place.lines.length (place.above.length + 2) - (place.above.length - 1) := by
      simp only [Place.line]
      omega
    have first : max 1 (place.line - 1) - 1 = place.above.length - 1 := by
      simp only [Place.line]
      omega
    rw [rows, window, first, ← List.map_drop, ← List.map_take, around, List.map_append]
    rfl
  · simp only [upper, List.length_map, List.length_drop, List.length_zipIdx, Place.line]
    omega

/-- The number of a line is padded to four characters. -/
def numberWidth (line : Nat) : Nat :=
  max 4 (Nat.toDigits 10 line).length

theorem length_number (line : Nat) :
    (Text.padLeft 4 (toString line)).length = numberWidth line := by
  rw [Text.length_padLeft, numberWidth, Nat.toString_eq_repr, ← String.length_toList,
    Nat.toList_repr]

/-- Behind the number and its bar, the row of a place goes on with its line. -/
theorem toList_row :
    ∃ number : List Char, number.length = numberWidth place.line + 3 ∧
      (row (place.content, place.above.length)).toList =
        number ++ place.before ++ place.behind := by
  refine ⟨(Text.padLeft 4 (toString place.line)).toList ++ [' ', '|', ' '], ?_, ?_⟩
  · rw [List.length_append, String.length_toList, length_number]
    rfl
  · have whole : row (place.content, place.above.length) =
        Text.padLeft 4 (toString place.line) ++ " | " ++ String.ofList place.content := rfl
    rw [whole, String.toList_append, String.toList_append]
    simp [Place.content]

/-- The marker leaves room for a number of four characters, and points at the column. -/
theorem toList_markerLine (width : Int) :
    ∃ room : List Char, room.length = 4 + 3 ∧ '^' ∉ room ∧
      (markerLine place.column width).toList =
        room ++ List.replicate place.before.length ' ' ++
          '^' :: List.replicate (width - 1).toNat '~' := by
  have before : ((place.column : Int) - 1).toNat = place.before.length := by
    simp [Place.column]
  have blanks := Text.toList_repeated (place.column - 1) ' '
  have tildes := Text.toList_repeated (width - 1) '~'
  rw [before] at blanks
  refine ⟨"     | ".toList, rfl, by decide, ?_⟩
  have whole : markerLine place.column width =
      "     | " ++ Text.repeated (place.column - 1) (String.singleton ' ') ++ "^" ++
        Text.repeated (width - 1) (String.singleton '~') := rfl
  rw [whole, String.toList_append, String.toList_append, String.toList_append, blanks, tildes,
    List.append_assoc]
  rfl

/-- The caret and the place stand at the same index of their lines as long as the number of the line
takes no more than four characters. -/
theorem caret_index (width : Int) :
    let own := row (place.content, place.above.length)
    let marker := markerLine place.column width
    let index := numberWidth place.line + 3 + place.before.length
    own.toList.drop index = place.behind ∧ own.length = index + place.behind.length ∧
      '^' ∈ marker.toList ∧
      marker.toList.idxOf '^' + ((Nat.toDigits 10 place.line).length - 4) = index ∧
      (marker.toList.idxOf '^' = index ↔ place.line < 10000) := by
  obtain ⟨number, size, ownText⟩ := toList_row place
  obtain ⟨room, roomSize, noCaret, markerText⟩ := toList_markerLine place width
  have atIndex : numberWidth place.line + 3 + place.before.length =
      (number ++ place.before).length := by
    rw [List.length_append, size]
  have caret : (markerLine place.column width).toList.idxOf '^' = 4 + 3 + place.before.length := by
    have apart : '^' ∉ room ++ List.replicate place.before.length ' ' := by
      simp [noCaret]
    rw [markerText, List.idxOf_append_of_notMem apart, List.idxOf_cons_self, List.length_append,
      List.length_replicate, roomSize, Nat.add_zero]
  have digits : (Nat.toDigits 10 place.line).length ≤ 4 ↔ place.line < 10000 :=
    Nat.length_toDigits_le_iff (by decide) (by decide)
  refine ⟨?_, ?_, ?_, ?_, ?_⟩
  · rw [ownText, atIndex, List.drop_left]
  · rw [← String.length_toList, ownText, List.length_append, atIndex]
  · simp [markerText]
  · rw [caret, numberWidth]
    omega
  · rw [caret, ← digits, numberWidth]
    omega

/-- The diagnostic of a place has its line and its column, and shows the lines around it. -/
theorem inFile_place (filename message : String) (reserved : List String) :
    inFile (place.front ++ place.rest) filename place.front.length message reserved =
      { message := filename ++ ": " ++ message
        location := place.front.length
        line := place.line
        column := place.column
        expected := ["a statement"]
        got := some (foundAt (place.front ++ place.rest) place.front.length)
        context := some (contextText (place.front ++ place.rest) place.line place.column
          (tokenWidth (place.front ++ place.rest) place.front.length) 1)
        suggestions := hints (place.front ++ place.rest)
          (foundAt (place.front ++ place.rest) place.front.length) reserved } := by
  rw [inFile, atLocation]
  simp only [offset_natCast, place.lineAt_text, place.columnAt_text]

end

/-- Every diagnostic of a reading is that of a place in the text. -/
theorem exists_place_of_read {levels : Nat} {text filename : String} {diagnostic : Diagnostic}
    (failed : Program.read levels text filename = .error (.diagnosed diagnostic)) :
    ∃ (place : Place) (message : String), place.front ++ place.rest = text.toList ∧
      Program.Refusal levels (place.front ++ place.rest) place.front.length message ∧
      diagnostic = inFile (place.front ++ place.rest) filename place.front.length message
        reservedWords := by
  obtain ⟨location, message, refusal, rfl⟩ := Program.refusal_of_read failed
  obtain ⟨place, whole, rfl⟩ := Place.exists_place refusal.location_le
  rw [← whole] at refusal
  exact ⟨place, message, whole, refusal, by rw [whole]⟩

/-- An invalid statement begins with a visible character on the line where it is reported. -/
theorem behind_of_invalid {levels : Nat} {place : Place} {filename message : String}
    (refusal : Program.Refusal levels (place.front ++ place.rest) place.front.length message)
    (invalid : filename ++ ": " ++ message = filename ++ ": " ++ "Invalid statement") :
    ∃ char more, place.behind = char :: more ∧ Text.isSpace char = false := by
  obtain ⟨nodes, stops⟩ := refusal.stops ((String.append_right_inj _).mp invalid)
  obtain ⟨char, found, visible⟩ := stops.visible
  obtain ⟨more, begins⟩ := place.behind_of_visible found visible
  exact ⟨char, more, begins, visible⟩

end Diagnostic

/-- The context of an invalid statement shows the numbered lines around it, with the marker right
behind the row of the error. The statement begins at one index of its row, and the caret stands at
the same index of the marker if and only if the number of the line has at most four digits. With
more digits the caret stands further to the left, by one character for each of them. -/
theorem caret_under_token_iff (levels : Nat) (text filename : String) (diagnostic : Diagnostic)
    (failed : Program.read levels text filename = .error (.diagnosed diagnostic))
    (invalid : diagnostic.message = filename ++ ": " ++ "Invalid statement") :
    ∃ (location line index : Nat) (context own marker : String),
      diagnostic.location = location ∧ diagnostic.line = line ∧
      diagnostic.context = some context ∧
      Diagnostic.Shows (Text.splitLines text.toList) line context own marker ∧
      own.toList.drop index = (text.toList.drop location).takeWhile (· != '\n') ∧
      index < own.length ∧ '^' ∈ marker.toList ∧
      marker.toList.idxOf '^' + ((Nat.toDigits 10 line).length - 4) = index ∧
      (marker.toList.idxOf '^' = index ↔ line < 10000) := by
  obtain ⟨place, message, whole, refusal, rfl⟩ := Diagnostic.exists_place_of_read failed
  rw [Diagnostic.inFile_place] at invalid ⊢
  obtain ⟨char, more, begins, -⟩ := Diagnostic.behind_of_invalid refusal invalid
  have shows := Diagnostic.contextText_shows place
    (Diagnostic.tokenWidth (place.front ++ place.rest) place.front.length)
  obtain ⟨dropped, size, caret, distance, aligned⟩ := Diagnostic.caret_index place
    (Diagnostic.tokenWidth (place.front ++ place.rest) place.front.length)
  have behind : ((place.front ++ place.rest).drop place.front.length).takeWhile (· != '\n') =
      place.behind := by
    rw [List.drop_left, place.takeWhile_rest]
  have inside : Diagnostic.numberWidth place.line + 3 + place.before.length <
      (Diagnostic.row (place.content, place.above.length)).length := by
    rw [size, begins, List.length_cons]
    omega
  rw [← whole, place.splitLines_text]
  exact ⟨place.front.length, place.line, _, _, _, _, rfl, rfl, rfl, shows,
    dropped.trans behind.symm, inside, caret, distance, aligned⟩

/-- A bracket that closes nothing, below the given number of empty lines. -/
def loneBracket (count : Nat) : List Char :=
  List.replicate count '\n' ++ [']']

/-- The place of the bracket. -/
def bracketPlace (count : Nat) : Place where
  above := List.replicate count []
  before := []
  behind := [']']
  below := []
  plainAbove := by simp +contextual [Text.Plain]
  plainBefore := by simp [Text.Plain]
  plainBehind := by simp [Text.Plain]
  plainBelow := by simp

theorem front_bracketPlace (count : Nat) :
    (bracketPlace count).front = List.replicate count '\n' := by
  have feeds : Text.ended (List.replicate count []) = List.replicate count '\n' := by
    induction count with
    | zero => rfl
    | succ count inductionHypothesis =>
        rw [List.replicate_succ, List.replicate_succ, ← inductionHypothesis]
        rfl
  rw [Place.front, bracketPlace, feeds, List.append_nil]

theorem text_bracketPlace (count : Nat) :
    (bracketPlace count).front ++ (bracketPlace count).rest = loneBracket count := by
  rw [front_bracketPlace]
  rfl

theorem line_bracketPlace (count : Nat) : (bracketPlace count).line = count + 1 := by
  simp [Place.line, bracketPlace]

/-- The bracket is refused at its place. -/
theorem Program.read_loneBracket (levels count : Nat) (filename : String) :
    Program.read (levels + 1) (String.ofList (loneBracket count)) filename =
      .error (.diagnosed (.inFile ((bracketPlace count).front ++ (bracketPlace count).rest) filename
        (bracketPlace count).front.length "Invalid statement" reservedWords)) := by
  have spaces : ∀ char ∈ List.replicate count '\n', Text.isSpace char = true := by
    intro char member
    rw [List.eq_of_mem_replicate member]
    decide
  have stuck : Avoids Token.startsStatement [']'] := by
    intro token rest found
    cases found
    decide
  rw [text_bracketPlace, front_bracketPlace]
  exact Program.read_of_stuck spaces (by decide) stuck filename

/-- The marker of the bracket is a caret alone, whatever the number of its line. -/
theorem Diagnostic.markerLine_bracketPlace (count : Nat) :
    markerLine (bracketPlace count).column
      (tokenWidth ((bracketPlace count).front ++ (bracketPlace count).rest)
        (bracketPlace count).front.length) = "     | ^" := by
  have width : tokenWidth ((bracketPlace count).front ++ (bracketPlace count).rest)
      (bracketPlace count).front.length = 1 := by
    rw [tokenWidth, List.drop_left]
    rfl
  rw [width]
  show markerLine 1 1 = "     | ^"
  decide +kernel

/-- On the last line with a number of four digits the caret still stands under the bracket. -/
theorem caret_under_token_iff_lastAligned :
    ∃ (diagnostic : Diagnostic) (index : Nat) (context own marker : String),
      Program.read (levelsWithin baseFrames) (String.ofList (loneBracket 9998)) "<input>" =
        .error (.diagnosed diagnostic) ∧
      diagnostic.message = "<input>: Invalid statement" ∧ diagnostic.line = 9999 ∧
      diagnostic.context = some context ∧
      Diagnostic.Shows (Text.splitLines (loneBracket 9998)) 9999 context own marker ∧
      own.toList.drop index = [']'] ∧ marker.toList.idxOf '^' = index := by
  have failed := Program.read_loneBracket 141 9998 "<input>"
  obtain ⟨location, line, index, context, own, marker, atLocation, atLine, shown, shows, dropped,
    -, -, -, aligned⟩ := caret_under_token_iff _ _ _ _ failed rfl
  have here : location = 9998 := by
    have atFront := congrArg Int.toNat atLocation
    rw [Diagnostic.inFile_place, front_bracketPlace, List.length_replicate] at atFront
    exact atFront.symm
  have below : line = 9999 := by
    have atPlace := congrArg Int.toNat atLine
    rw [Diagnostic.inFile_place, line_bracketPlace] at atPlace
    exact atPlace.symm
  subst here below
  rw [String.toList_ofList] at shows dropped
  have bracket : (loneBracket 9998).drop 9998 = [']'] :=
    List.drop_left' (List.length_replicate ..)
  rw [bracket] at dropped
  exact ⟨_, index, context, own, marker, failed, rfl, atLine, shown, shows, dropped,
    aligned.mpr (by decide)⟩

/-- From the next line on the caret stands to the left of the bracket. -/
theorem caret_left_of_bracket :
    ∃ (diagnostic : Diagnostic) (context own marker : String),
      Program.read (levelsWithin baseFrames) (String.ofList (loneBracket 9999)) "<input>" =
        .error (.diagnosed diagnostic) ∧
      diagnostic.message = "<input>: Invalid statement" ∧ diagnostic.line = 10000 ∧
      diagnostic.context = some context ∧
      Diagnostic.Shows (Text.splitLines (loneBracket 9999)) 10000 context own marker ∧
      own = "10000 | ]" ∧ own.toList.idxOf ']' = 8 ∧
      marker = "     | ^" ∧ marker.toList.idxOf '^' = 7 := by
  have failed := Program.read_loneBracket 141 9999 "<input>"
  have shows := Diagnostic.contextText_shows (bracketPlace 9999)
    (Diagnostic.tokenWidth ((bracketPlace 9999).front ++ (bracketPlace 9999).rest)
      (bracketPlace 9999).front.length)
  have atLine := line_bracketPlace 9999
  have own : Diagnostic.row ((bracketPlace 9999).content, (bracketPlace 9999).above.length) =
      "10000 | ]" := by
    have count : (bracketPlace 9999).above.length = 9999 := List.length_replicate ..
    rw [count]
    decide +kernel
  rw [own, Diagnostic.markerLine_bracketPlace, ← Place.splitLines_text, text_bracketPlace] at shows
  rw [Diagnostic.inFile_place, text_bracketPlace] at failed
  rw [atLine] at shows failed
  exact ⟨_, _, _, _, failed, rfl, rfl, rfl, shows, rfl, by decide, rfl, by decide⟩

end Turtle
