import Turtle.Diagnostic
import Mathlib.Algebra.GroupWithZero.Nat

/-
This file finds the line and the column of an offset. A place divides a text into the lines above
it, its own line in two parts, and the lines below it, and every offset of a text is such a place.
-/

namespace Turtle

namespace Text

theorem splitWhen_eq_splitOnP (separates : Char → Bool) (text : List Char) :
    splitWhen separates text = text.splitOnP separates := by
  induction text with
  | nil => rfl
  | cons char rest inductionHypothesis =>
      rw [List.splitOnP_cons_eq_if_modifyHead, ← inductionHypothesis]
      show (if separates char then [] :: splitWhen separates rest else _) = _
      by_cases separated : separates char
      · simp [separated]
      · obtain ⟨first, others, parts⟩ : ∃ first others,
            splitWhen separates rest = first :: others := by
          apply List.exists_cons_of_ne_nil
          rw [inductionHypothesis]
          exact List.splitOnP_ne_nil separates rest
        simp only [splitWhen] at parts ⊢
        simp [separated, parts]

theorem ne_lineFeed {char : Char} (visible : isSpace char = false) : char ≠ '\n' := by
  rintro rfl
  exact absurd visible (by decide)

/-- A line is plain when it holds no line feed. -/
def Plain (line : List Char) : Prop :=
  '\n' ∉ line

theorem Plain.beq_eq_false {line : List Char} (plain : Plain line) :
    ∀ char ∈ line, (char == '\n') = false := by
  intro char member
  rw [beq_eq_false_iff_ne]
  rintro rfl
  exact plain member

theorem Plain.bne_eq_true {line : List Char} (plain : Plain line) :
    ∀ char ∈ line, (char != '\n') = true := by
  intro char member
  simp [bne, plain.beq_eq_false char member]

theorem Plain.splitLines_eq {line : List Char} (plain : Plain line) : splitLines line = [line] := by
  rw [splitLines, splitWhen_eq_splitOnP, List.splitOnP_eq_singleton plain.beq_eq_false]

/-- A line ends at its line feed. -/
theorem Plain.splitLines_append {line : List Char} (plain : Plain line) (rest : List Char) :
    splitLines (line ++ '\n' :: rest) = line :: splitLines rest := by
  have apart := List.splitOnP_append_cons (p := (· == '\n')) line rest (beq_self_eq_true '\n')
  rw [← splitWhen_eq_splitOnP, ← splitWhen_eq_splitOnP, ← splitWhen_eq_splitOnP] at apart
  rw [splitLines, apart, ← splitLines, plain.splitLines_eq]
  rfl

/-- Every line above ends with a line feed. -/
def ended (lines : List (List Char)) : List Char :=
  lines.flatMap (· ++ ['\n'])

/-- Every line below begins with a line feed. -/
def begun (lines : List (List Char)) : List Char :=
  lines.flatMap ('\n' :: ·)

theorem splitLines_ended {lines : List (List Char)} (plain : ∀ line ∈ lines, Plain line)
    (rest : List Char) : splitLines (ended lines ++ rest) = lines ++ splitLines rest := by
  induction lines with
  | nil => rfl
  | cons line lines inductionHypothesis =>
      obtain ⟨here, there⟩ := List.forall_mem_cons.mp plain
      have whole : ended (line :: lines) ++ rest = line ++ '\n' :: (ended lines ++ rest) := by
        simp [ended]
      rw [whole, here.splitLines_append, inductionHypothesis there, List.cons_append]

theorem splitLines_begun {content : List Char} {lines : List (List Char)} (plain : Plain content)
    (others : ∀ line ∈ lines, Plain line) :
    splitLines (content ++ begun lines) = content :: lines := by
  induction lines generalizing content with
  | nil => simpa [begun] using plain.splitLines_eq
  | cons line lines inductionHypothesis =>
      obtain ⟨here, there⟩ := List.forall_mem_cons.mp others
      have whole : begun (line :: lines) = '\n' :: (line ++ begun lines) := by simp [begun]
      rw [whole, plain.splitLines_append, inductionHypothesis here there]

theorem count_ended {lines : List (List Char)} (plain : ∀ line ∈ lines, Plain line) :
    (ended lines).count '\n' = lines.length := by
  induction lines with
  | nil => rfl
  | cons line lines inductionHypothesis =>
      obtain ⟨here, there⟩ := List.forall_mem_cons.mp plain
      have rest : (lines.flatMap (· ++ ['\n'])).count '\n' = lines.length :=
        inductionHypothesis there
      simp [ended, List.count_eq_zero_of_not_mem here, rest]

/-- Every text ends in a line that has no line feed yet. -/
theorem exists_ended (text : List Char) :
    ∃ lines line, text = ended lines ++ line ∧ (∀ line ∈ lines, Plain line) ∧ Plain line := by
  induction text with
  | nil => exact ⟨[], [], rfl, by simp, by simp [Plain]⟩
  | cons char text inductionHypothesis =>
      obtain ⟨lines, line, whole, plain, last⟩ := inductionHypothesis
      by_cases feed : char = '\n'
      · exact ⟨[] :: lines, line, by simp [ended, feed, whole], by simpa [Plain] using plain, last⟩
      · cases lines with
        | nil =>
            refine ⟨[], char :: line, by simp_all [ended], by simp, ?_⟩
            simp_all [Plain, eq_comm]
        | cons first lines =>
            refine ⟨(char :: first) :: lines, line, by simp_all [ended], ?_, last⟩
            simp_all [Plain, eq_comm]

/-- Every text begins with a line, and line feeds separate the others. -/
theorem exists_begun (text : List Char) :
    ∃ line lines, text = line ++ begun lines ∧ Plain line ∧ ∀ line ∈ lines, Plain line := by
  induction text with
  | nil => exact ⟨[], [], rfl, by simp [Plain], by simp⟩
  | cons char text inductionHypothesis =>
      obtain ⟨line, lines, whole, first, plain⟩ := inductionHypothesis
      by_cases feed : char = '\n'
      · exact ⟨[], line :: lines, by simp [begun, feed, whole], by simp [Plain],
          List.forall_mem_cons.mpr ⟨first, plain⟩⟩
      · exact ⟨char :: line, lines, by simp [whole], by simp_all [Plain, eq_comm], plain⟩

end Text

theorem Diagnostic.offset_natCast (text : List Char) (location : Nat) :
    Diagnostic.offset text location = location := by
  rw [Diagnostic.offset, if_neg (by omega), Int.toNat_natCast]

/-- A place in a text has lines above it, characters before and behind it on its own line, and
lines below it. -/
structure Place where
  above : List (List Char)
  before : List Char
  behind : List Char
  below : List (List Char)
  plainAbove : ∀ line ∈ above, Text.Plain line
  plainBefore : Text.Plain before
  plainBehind : Text.Plain behind
  plainBelow : ∀ line ∈ below, Text.Plain line

namespace Place

def front (place : Place) : List Char :=
  Text.ended place.above ++ place.before

def rest (place : Place) : List Char :=
  place.behind ++ Text.begun place.below

/-- The line on which the place lies. -/
def content (place : Place) : List Char :=
  place.before ++ place.behind

def lines (place : Place) : List (List Char) :=
  place.above ++ place.content :: place.below

/-- Lines and columns are counted from one. -/
def line (place : Place) : Nat :=
  place.above.length + 1

def column (place : Place) : Nat :=
  place.before.length + 1

variable (place : Place)

/-- The text of a place is split into its lines. -/
theorem splitLines_text : Text.splitLines (place.front ++ place.rest) = place.lines := by
  have plain : Text.Plain place.content :=
    List.not_mem_append place.plainBefore place.plainBehind
  have whole : place.front ++ place.rest =
      Text.ended place.above ++ (place.content ++ Text.begun place.below) := by
    simp [front, rest, content]
  rw [whole, Text.splitLines_ended place.plainAbove, Text.splitLines_begun plain place.plainBelow]
  rfl

theorem getElem?_lines : place.lines[place.line - 1]? = some place.content := by
  simp [line, lines]

/-- The line of a place counts the line feeds before it. -/
theorem lineAt_text :
    Diagnostic.lineAt (place.front ++ place.rest) place.front.length = place.line := by
  rw [Diagnostic.lineAt, List.take_left, front, List.count_append,
    Text.count_ended place.plainAbove, List.count_eq_zero_of_not_mem place.plainBefore]
  rfl

/-- The last line feed before a place stands in front of its line. -/
theorem lastLineFeed_front :
    Diagnostic.lastLineFeed place.front = place.front.length - place.column := by
  have own : place.before.reverse.findIdx? (· == '\n') = none := by
    rw [List.findIdx?_eq_none_iff]
    intro char member
    exact place.plainBefore.beq_eq_false char (List.mem_reverse.mp member)
  rw [Diagnostic.lastLineFeed, front, List.reverse_append, List.findIdx?_append, own]
  rcases List.eq_nil_or_concat place.above with alone | ⟨earlier, last, others⟩
  · simp only [alone, Text.ended, column, List.flatMap_nil, List.reverse_nil, List.findIdx?_nil,
      Option.map_none, Option.or_none, List.nil_append]
    omega
  · have feed : (Text.ended place.above).reverse.findIdx? (· == '\n') = some 0 := by
      simp [others, Text.ended, List.findIdx?_cons]
    rw [feed]
    simp [column]

/-- The column of a place is its distance from the last line feed. -/
theorem columnAt_text :
    Diagnostic.columnAt (place.front ++ place.rest) place.front.length = place.column := by
  rw [Diagnostic.columnAt, Diagnostic.offset_natCast, List.take_left, lastLineFeed_front]
  omega

/-- What stands behind the place on its line is the text up to the next line feed. -/
theorem takeWhile_rest : place.rest.takeWhile (· != '\n') = place.behind := by
  rw [rest, List.takeWhile_append_of_pos place.plainBehind.bne_eq_true]
  cases place.below <;> simp [Text.begun]

theorem length_front :
    place.front.length =
      (place.above.map fun line => line.length + 1).sum + place.before.length := by
  simp [front, Text.ended, List.length_flatMap]

/-- A visible character at the place stands on its line. -/
theorem behind_of_visible {char : Char}
    (found : (place.front ++ place.rest)[place.front.length]? = some char)
    (visible : Text.isSpace char = false) : ∃ more, place.behind = char :: more := by
  rw [List.getElem?_append_right (Nat.le_refl _), Nat.sub_self] at found
  obtain ⟨others, begins⟩ : ∃ others, place.rest = char :: others := by
    cases rest : place.rest with
    | nil => simp [rest] at found
    | cons first others => exact ⟨others, by simpa [rest] using found⟩
  refine ⟨others.takeWhile (· != '\n'), ?_⟩
  rw [← place.takeWhile_rest, begins,
    List.takeWhile_cons_of_pos (by simpa using Text.ne_lineFeed visible)]

/-- Every offset of a text is a place in it. -/
theorem exists_place {text : List Char} {offset : Nat} (within : offset ≤ text.length) :
    ∃ place : Place, place.front ++ place.rest = text ∧ place.front.length = offset := by
  obtain ⟨above, before, front, plainAbove, plainBefore⟩ := Text.exists_ended (text.take offset)
  obtain ⟨behind, below, rest, plainBehind, plainBelow⟩ := Text.exists_begun (text.drop offset)
  refine ⟨⟨above, before, behind, below, plainAbove, plainBefore, plainBehind, plainBelow⟩, ?_, ?_⟩
  · show (Text.ended above ++ before) ++ (behind ++ Text.begun below) = text
    rw [← front, ← rest, List.take_append_drop]
  · show (Text.ended above ++ before).length = offset
    rw [← front, List.length_take_of_le within]

end Place

/-- The line and the column, counted from one, lead to the offset: the line is one of the lines, the
column lies on it or right behind it, and what stands before it is as long as the offset, with one
line feed for each line above. -/
structure Locates (lines : List (List Char)) (line column offset : Nat) : Prop where
  line_pos : 1 ≤ line
  line_le : line ≤ lines.length
  column_pos : 1 ≤ column
  column_le : ∃ content, lines[line - 1]? = some content ∧ column ≤ content.length + 1
  offset_eq : ((lines.take (line - 1)).map fun content => content.length + 1).sum + (column - 1) =
    offset

theorem Place.locates (place : Place) :
    Locates place.lines place.line place.column place.front.length := by
  constructor
  · simp [line]
  · simp [line, lines]
  · simp [column]
  · exact ⟨place.content, place.getElem?_lines, by simp [column, content]⟩
  · simp [line, column, lines, length_front]

end Turtle
