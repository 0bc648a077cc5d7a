import Turtle.Proofs.Grammar.Location

/-
This file lists what a text is refused for, and where. Every diagnostic of a reading is one of
these.
-/

namespace Turtle

namespace Program

open Token

/-- A text is refused because it is empty, because its statements stop at a place where none can be
read, or because its statements nest too deeply. -/
inductive Refusal (levels : Nat) (text : List Char) : Nat → String → Prop
  | empty (blank : Text.Blank text) : Refusal levels text text.length "Empty program"
  | invalid {location : Nat} {nodes : List Node} (stops : StopsAt levels text location nodes) :
      Refusal levels text location "Invalid statement"
  | nested : Refusal levels text 0 "Program nested too deeply to parse"

variable {levels : Nat}

theorem Refusal.location_le {text : List Char} {location : Nat} {message : String}
    (refusal : Refusal levels text location message) : location ≤ text.length := by
  cases refusal with
  | empty blank => exact Nat.le_refl _
  | invalid stops =>
      obtain ⟨char, found, -⟩ := stops.visible
      exact (List.getElem?_eq_some_iff.mp found).1.le
  | nested => exact Nat.zero_le _

/-- Only a place where the statements stop is reported as an invalid statement. -/
theorem Refusal.stops {text : List Char} {location : Nat} {message : String}
    (refusal : Refusal levels text location message) (same : message = "Invalid statement") :
    ∃ nodes, StopsAt levels text location nodes := by
  cases refusal with
  | empty blank => exact absurd same (by decide)
  | invalid stops => exact ⟨_, stops⟩
  | nested => exact absurd same (by decide)

/-- Only a blank text is refused where nothing visible is left. -/
theorem Refusal.blank_drop_iff {text : List Char} {location : Nat} {message : String}
    (refusal : Refusal levels text location message) :
    Text.Blank (text.drop location) ↔ Text.Blank text := by
  constructor
  · intro blank
    cases refusal with
    | empty whole => exact whole
    | invalid stops =>
        obtain ⟨char, found, visible⟩ := stops.visible
        rw [← List.head?_drop] at found
        rw [blank char (List.mem_of_mem_head? found)] at visible
        cases visible
    | nested => exact blank
  · intro blank char member
    exact blank char (List.mem_of_mem_drop member)

/-- Every diagnostic of a reading tells one of the reasons for which texts are refused. -/
theorem refusal_of_read {text filename : String} {diagnostic : Diagnostic}
    (failed : read levels text filename = .error (.diagnosed diagnostic)) :
    ∃ location message, Refusal levels text.toList location message ∧
      diagnostic = .inFile text.toList filename location message reservedWords := by
  rw [read, readChars] at failed
  cases reply : Rule.program levels (.ofList text.toList) with
  | matched node rest => simp [reply] at failed
  | unmatched =>
      have kept : ∀ cause, Rule.program levels (.ofList text.toList) ≠ .aborted cause := by
        intro cause given
        rw [reply] at given
        cases given
      obtain ⟨nodes, rest, run⟩ := Rule.exists_statementRun kept
      obtain ⟨location, located, consumed, stops⟩ := Rule.stopsAt_of_statementRun run
      simp only [reply, rejection, located, Except.error.injEq, ReadError.diagnosed.injEq] at failed
      by_cases blank : Text.Blank text.toList
      · obtain rfl : rest = .ofList [] := Rule.rest_of_blank run blank
        rw [if_pos (Text.strip_isEmpty_iff.mpr blank)] at failed
        have atEnd : location = text.toList.length := by simpa using consumed
        exact ⟨_, _, .empty blank, atEnd ▸ failed.symm⟩
      · rw [if_neg (mt Text.strip_isEmpty_iff.mp blank)] at failed
        have more := ((Rule.program_unmatched_iff run).mp reply).resolve_left blank
        exact ⟨_, _, .invalid (stops more), failed.symm⟩
  | aborted cause =>
      cases cause with
      | literalTooLong digits => simp [reply, abortError] at failed
      | nestedTooDeep =>
          simp only [reply, abortError, nestingError, Except.error.injEq,
            ReadError.diagnosed.injEq] at failed
          exact ⟨0, _, .nested, failed.symm⟩

/-- A text is refused where its run of statements stops before a visible character. -/
theorem read_of_run {front rest : List Char} {char : Char} {nodes : List Node}
    (visible : Text.isSpace char = false)
    (run : Rule.statementRun levels (.ofList (front ++ char :: rest)) =
      .matched nodes (.ofList (char :: rest))) (filename : String) :
    read levels (String.ofList (front ++ char :: rest)) filename =
      .error (.diagnosed (.inFile (front ++ char :: rest) filename front.length
        "Invalid statement" reservedWords)) := by
  have located : Rule.errorLocation levels (.ofList (front ++ char :: rest)) =
      .ok front.length := by
    rw [Rule.errorLocation, run]
    simp [Cursor.consumed]
  have missing : Rule.program levels (.ofList (front ++ char :: rest)) = .unmatched :=
    (Rule.program_unmatched_iff run).mpr (.inr (by simp))
  have solid : ¬Text.Blank (front ++ char :: rest) := by
    intro blank
    rw [blank char (by simp)] at visible
    cases visible
  rw [read, readChars, String.toList_ofList, missing]
  simp only [rejection, located, if_neg (mt Text.strip_isEmpty_iff.mp solid)]

/-- A text whose first token starts no statement is refused at that token. -/
theorem read_of_stuck {gap rest : List Char} {char : Char}
    (spaces : ∀ char ∈ gap, Text.isSpace char = true) (visible : Text.isSpace char = false)
    (stuck : Avoids startsStatement (char :: rest)) (filename : String) :
    read (levels + 1) (String.ofList (gap ++ char :: rest)) filename =
      .error (.diagnosed (.inFile (gap ++ char :: rest) filename gap.length "Invalid statement"
        reservedWords)) := by
  have skipped : skip (gap ++ char :: rest) = char :: rest := by
    rw [skip, List.dropWhile_append_of_pos spaces]
    simp [visible]
  have run : Rule.statementRun (levels + 1) (.ofList (gap ++ char :: rest)) =
      .matched [] (.ofList (char :: rest)) := by
    rw [Rule.statementRun_apply, skipped]
    exact Parser.many_of_unmatched (Rule.statement_unmatched stuck)
  exact read_of_run visible run filename

end Program

end Turtle
