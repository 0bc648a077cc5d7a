import Turtle.Proofs.Grammar.Abort
import Turtle.Proofs.Grammar.Truncation
import Turtle.Run

/-
This file compares the two readings of a malformed text: the program rule, which must reach the
end of the text, and the run of complete statements, which ends where the error is reported.
-/

namespace Turtle

open Token

namespace Text

/-- A blank text holds white space only. -/
def Blank (text : List Char) : Prop :=
  ∀ char ∈ text, isSpace char = true

theorem blank_iff_skip {text : List Char} : Blank text ↔ skip text = [] :=
  List.dropWhile_eq_nil_iff.symm

theorem strip_isEmpty_iff {text : List Char} : (strip text).isEmpty = true ↔ Blank text := by
  rw [blank_iff_skip, List.isEmpty_iff, strip, stripWhile, List.reverse_eq_nil_iff,
    List.dropWhile_eq_nil_iff]
  constructor
  · intro spaces
    rw [← skip_skip, skip, List.dropWhile_eq_nil_iff]
    intro char member
    exact spaces char (List.mem_reverse.mpr member)
  · intro blank char member
    rw [List.mem_reverse] at member
    rw [skip] at blank
    rw [blank] at member
    cases member

end Text

namespace Rule

open Turtle.Parser

variable {levels : Nat} {text : List Char} {nodes : List Node} {rest : Cursor}

theorem statementRun_of_blank (blank : Text.Blank text) :
    statementRun (levels + 1) (.ofList text) = .matched [] (.ofList []) := by
  rw [statementRun_apply, Text.blank_iff_skip.mp blank]
  exact many_of_unmatched (statement_unmatched (avoids_end _))

theorem rest_of_blank (run : statementRun levels (.ofList text) = .matched nodes rest)
    (blank : Text.Blank text) : rest = .ofList [] := by
  have matched := run
  rw [statementRun_apply] at matched
  obtain ⟨inner, rfl⟩ := exists_level_of_many matched
  rw [statementRun_of_blank blank] at run
  cases run
  rfl

/-- A text with no statement and no rest is blank. -/
theorem blank_of_statementRun
    (run : statementRun levels (.ofList text) = .matched [] (.ofList [])) :
    Text.Blank text := by
  rw [statementRun_apply] at run
  obtain ⟨phrases, reads, none⟩ := many_sound (statement_sound levels) run
  rw [List.map_eq_nil_iff.mp none] at reads
  apply Text.blank_iff_skip.mpr
  generalize atStart : (Cursor.ofList (skip text)).chars = start at reads
  generalize atEnd : (Cursor.ofList []).chars = finish at reads
  cases reads
  exact atStart.trans atEnd.symm

/-- The rest behind a run of statements does not start with white space. -/
theorem skip_rest_of_statementRun (run : statementRun levels (.ofList text) = .matched nodes rest) :
    skip rest.chars = rest.chars := by
  rw [statementRun_apply] at run
  obtain ⟨phrases, reads, -⟩ := many_sound (statement_sound levels) run
  exact reads.skip_rest (skip_skip text)

/-- A text that its run of statements reads to the end is blank or a program. -/
theorem program_of_statementRun
    (run : statementRun levels (.ofList text) = .matched nodes (.ofList [])) :
    (nodes = [] ∧ Text.Blank text) ∨
      ∃ node, Node.sequenceOf? nodes = some node ∧
        program levels (.ofList text) = .matched node (.ofList []) := by
  cases nodes with
  | nil => exact .inl ⟨rfl, blank_of_statementRun run⟩
  | cons first others =>
      obtain ⟨node, folded⟩ := Node.exists_sequenceOf? (List.cons_ne_nil first others)
      refine .inr ⟨node, folded, ?_⟩
      rw [program_apply, run]
      simp [folded]

/-- A text is no program if it is blank or if its run of statements leaves a rest. -/
theorem program_unmatched_iff (run : statementRun levels (.ofList text) = .matched nodes rest) :
    program levels (.ofList text) = .unmatched ↔ Text.Blank text ∨ rest.chars ≠ [] := by
  constructor
  · intro missing
    by_cases ended : rest.chars = []
    · rw [← rest.ofList_chars, ended] at run
      rcases program_of_statementRun run with ⟨-, blank⟩ | ⟨node, -, matched⟩
      · exact .inl blank
      · rw [matched] at missing
        cases missing
    · exact .inr ended
  · rintro (blank | more)
    · rw [statementRun_apply] at run
      obtain ⟨inner, rfl⟩ := exists_level_of_many run
      rw [program_apply, statementRun_of_blank blank]
      rfl
    · rw [program_apply, run]
      dsimp only
      cases Node.sequenceOf? nodes <;> simp [more]

/-- A text is given up for its literals or for its nesting. -/
theorem program_kept (literals : ∀ count, ¬LongLiteral text count)
    (nesting : program levels (.ofList text) ≠ .aborted .nestedTooDeep) (cause : ParseAbort) :
    program levels (.ofList text) ≠ .aborted cause := by
  intro given
  cases cause with
  | nestedTooDeep => exact nesting given
  | literalTooLong count =>
      have explained := program_explained levels (.ofList text)
      rw [given] at explained
      exact literals count explained

/-- Both readings give up a text for the same cause. -/
theorem program_aborted_iff {cause : ParseAbort} :
    program levels (.ofList text) = .aborted cause ↔
      errorLocation levels (.ofList text) = .error cause := by
  rw [program_apply, errorLocation]
  cases statementRun levels (.ofList text) with
  | matched nodes rest =>
      dsimp only
      cases Node.sequenceOf? nodes with
      | none => simp
      | some node =>
          dsimp only
          split_ifs <;> simp
  | unmatched => simp
  | aborted other => simp

theorem exists_statementRun (kept : ∀ cause, program levels (.ofList text) ≠ .aborted cause) :
    ∃ nodes rest, statementRun levels (.ofList text) = .matched nodes rest := by
  cases run : statementRun levels (.ofList text) with
  | matched nodes rest => exact ⟨nodes, rest, rfl⟩
  | unmatched =>
      rw [statementRun_apply] at run
      exact absurd run (manyWithin_ne_unmatched _ _ _ _)
  | aborted cause =>
      apply absurd _ (kept cause)
      rw [program_aborted_iff, errorLocation, run]

end Rule

/-- The statements of a text stop at the location. A character stands there that is not white
space, and no statement can be read from it. What stands before it is blank, or it is a program of
the statements found. -/
structure StopsAt (levels : Nat) (text : List Char) (location : Nat) (nodes : List Node) :
    Prop where
  visible : ∃ char, text[location]? = some char ∧ Text.isSpace char = false
  refused : Rule.statement levels (.ofList (text.drop location)) = .unmatched
  found : Rule.statementRun levels (.ofList text) = .matched nodes (.ofList (text.drop location))
  kept : Rule.statementRun levels (.ofList (text.take location)) = .matched nodes (.ofList [])
  before : (nodes = [] ∧ Text.Blank (text.take location)) ∨
    ∃ node, Node.sequenceOf? nodes = some node ∧
      Rule.program levels (.ofList (text.take location)) = .matched node (.ofList [])

namespace Rule

variable {levels : Nat} {text : List Char} {nodes : List Node} {rest : Cursor}

/-- The error is located behind the run of statements, and the text stops there unless it ends. -/
theorem stopsAt_of_statementRun (run : statementRun levels (.ofList text) = .matched nodes rest) :
    ∃ location, errorLocation levels (.ofList text) = .ok location ∧
      location + rest.chars.length = text.length ∧
      (rest.chars ≠ [] → StopsAt levels text location nodes) := by
  obtain ⟨front, whole, kept⟩ := statementRun_truncate run
  have taken : text.take front.length = front := by rw [whole, List.take_left]
  have dropped : text.drop front.length = rest.chars := by rw [whole, List.drop_left]
  refine ⟨front.length, ?_, ?_, ?_⟩
  · rw [errorLocation, run]
    have consumed : (Cursor.ofList text).consumed rest = front.length := by
      rw [Cursor.consumed, rest.counted, Cursor.remaining_ofList, whole, List.length_append]
      omega
    exact congrArg Except.ok consumed
  · rw [whole, List.length_append]
  · intro more
    constructor
    · obtain ⟨char, others, begins⟩ := List.exists_cons_of_ne_nil more
      refine ⟨char, by rw [← List.head?_drop, dropped, begins]; rfl, ?_⟩
      have visible := List.dropWhile_eq_self_iff.mp (skip_rest_of_statementRun run)
      simpa [begins] using visible
    · rw [dropped, Cursor.ofList_chars]
      rw [statementRun_apply] at run
      exact statement_unmatched_of_many run
    · rw [dropped, Cursor.ofList_chars, run]
    · rw [taken, kept]
    · rw [taken]
      exact program_of_statementRun kept

end Rule

namespace Program

/-- The text is refused with this message at this location. -/
def Reports (levels : Nat) (text filename : String) (location : Nat) (message : String) : Prop :=
  ∃ diagnostic, read levels text filename = .error (.diagnosed diagnostic) ∧
    diagnostic.message = filename ++ ": " ++ message ∧ diagnostic.location = location

/-- A text that is no program is reported at the location of its error. -/
theorem reports_of_unmatched {levels : Nat} {text : String} {location : Nat}
    (missing : Rule.program levels (.ofString text) = .unmatched)
    (located : Rule.errorLocation levels (.ofString text) = .ok location) (filename : String) :
    Reports levels text filename location
      (if (Text.strip text.toList).isEmpty then "Empty program" else "Invalid statement") := by
  rw [Cursor.ofString] at missing located
  have refused : read levels text filename = .error (.diagnosed (.inFile text.toList filename
      location (if (Text.strip text.toList).isEmpty then "Empty program" else "Invalid statement")
      reservedWords)) := by
    simp only [read, readChars, missing, rejection, located]
  exact ⟨_, refused, rfl, rfl⟩

end Program

/-- The location of an error agrees with the program rule, for every text with literals and nesting
within the limits. A text is no program if and only if it is blank or the location lies before its
end. If it is not blank, then its statements stop there and an invalid statement is reported there.
A blank text is reported as empty at its end. -/
theorem errorLocation_agrees (levels : Nat) (text filename : String)
    (literals : ∀ count, ¬LongLiteral text.toList count)
    (nesting : Rule.program levels (.ofString text) ≠ .aborted .nestedTooDeep) :
    ∃ location, Rule.errorLocation levels (.ofString text) = .ok location ∧
      (Rule.program levels (.ofString text) = .unmatched ↔
        Text.Blank text.toList ∨ location < text.length) ∧
      (Text.Blank text.toList →
        location = text.length ∧ Program.Reports levels text filename location "Empty program") ∧
      (Rule.program levels (.ofString text) = .unmatched → ¬Text.Blank text.toList →
        (∃ nodes, StopsAt levels text.toList location nodes) ∧
          Program.Reports levels text filename location "Invalid statement") := by
  obtain ⟨nodes, rest, run⟩ := Rule.exists_statementRun (Rule.program_kept literals nesting)
  obtain ⟨location, located, consumed, stops⟩ := Rule.stopsAt_of_statementRun run
  rw [String.length_toList] at consumed
  have missing_iff : Rule.program levels (.ofString text) = .unmatched ↔ _ :=
    Rule.program_unmatched_iff run
  refine ⟨location, located, ?_, ?_, ?_⟩
  · rw [missing_iff, ← List.length_pos_iff, ← consumed, Nat.lt_add_right_iff_pos]
  · intro blank
    obtain rfl : rest = .ofList [] := Rule.rest_of_blank run blank
    have reported := Program.reports_of_unmatched (missing_iff.mpr (.inl blank)) located filename
    rw [if_pos (Text.strip_isEmpty_iff.mpr blank)] at reported
    exact ⟨by simpa using consumed, reported⟩
  · intro missing visible
    have reported := Program.reports_of_unmatched missing located filename
    rw [if_neg (mt Text.strip_isEmpty_iff.mp visible)] at reported
    exact ⟨⟨nodes, stops ((missing_iff.mp missing).resolve_left visible)⟩, reported⟩

/-- A word that touches a digit is no name, so the statements before it are all that is found. -/
theorem errorLocation_agrees_gluedName :
    Rule.errorLocation (levelsWithin baseFrames) (.ofString "fd 10 f1") = .ok 6 ∧
      Rule.program (levelsWithin baseFrames) (.ofString "fd 10 f1") = .unmatched ∧
      (∃ nodes, StopsAt (levelsWithin baseFrames) "fd 10 f1".toList 6 nodes) ∧
      Program.Reports (levelsWithin baseFrames) "fd 10 f1" "<input>" 6 "Invalid statement" := by
  have evaluated : (Rule.errorLocation (levelsWithin baseFrames) (.ofString "fd 10 f1")).toOption =
      some 6 := by
    decide +kernel
  have located : Rule.errorLocation (levelsWithin baseFrames) (.ofString "fd 10 f1") = .ok 6 := by
    cases found : Rule.errorLocation (levelsWithin baseFrames) (.ofString "fd 10 f1") with
    | ok location => simpa [found, Except.toOption] using evaluated
    | error cause => simp [found, Except.toOption] at evaluated
  have literals : ∀ count, ¬LongLiteral "fd 10 f1".toList count := by
    rintro count ⟨digits, inside, -, rfl, long⟩
    have short := inside.length_le
    rw [maxDigits] at long
    have total : "fd 10 f1".toList.length = 8 := by decide
    omega
  have nesting : Rule.program (levelsWithin baseFrames) (.ofString "fd 10 f1") ≠
      .aborted .nestedTooDeep := by
    intro given
    have failed := Rule.program_aborted_iff.mp given
    rw [← Cursor.ofString, located] at failed
    cases failed
  have visible : ¬Text.Blank "fd 10 f1".toList := by
    intro blank
    exact absurd (blank 'f' (by decide)) (by decide)
  obtain ⟨location, found, missing_iff, -, stops⟩ :=
    errorLocation_agrees (levelsWithin baseFrames) "fd 10 f1" "<input>" literals nesting
  rw [located] at found
  cases found
  have missing := missing_iff.mpr (.inr (by decide))
  exact ⟨located, missing, stops missing visible⟩

end Turtle
