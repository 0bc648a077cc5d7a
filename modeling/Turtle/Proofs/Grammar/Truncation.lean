import Turtle.Proofs.Grammar.Acceptance
import Turtle.Proofs.Node
import Mathlib.Data.List.DropRight

/-
This file cuts a text off behind the tokens that were read from it. A token looks at most one
character ahead, and the end of the text stops it as that character did, so the same tokens are
read from what stands before the cut, and the same run of statements.
-/

namespace Turtle

open Token Turtle.Derivation

namespace Token

/-- A run of characters ends where it ended when less of the text follows it. -/
theorem takeWhile_truncate {test : Char → Bool} {text short : List Char}
    (less : short <+: text.dropWhile test) :
    (text.takeWhile test ++ short).takeWhile test = text.takeWhile test ∧
      (text.takeWhile test ++ short).dropWhile test = short := by
  have passes : ∀ char ∈ text.takeWhile test, test char = true :=
    fun char member => List.mem_takeWhile_imp member
  rw [List.takeWhile_append_of_pos passes, List.dropWhile_append_of_pos passes]
  cases short with
  | nil => simp
  | cons char rest =>
      obtain ⟨behind, same⟩ := less
      have refused : test char = false := by
        have first := List.head?_dropWhile_not test text
        rw [← same] at first
        simpa using first
      simp [refused]

theorem head?_any_truncate {test : Char → Bool} {text short : List Char} (less : short <+: text)
    (refused : text.head?.any test = false) : short.head?.any test = false := by
  cases short with
  | nil => rfl
  | cons char rest =>
      obtain ⟨behind, rfl⟩ := less
      exact refused

/-- A token is cut off in the same way when less of the text follows it. -/
theorem cut?_truncate {text behind : List Char} {token : Token}
    (found : cut? text = some (token, behind)) :
    ∃ front, text = front ++ behind ∧
      ∀ short, short <+: behind → cut? (front ++ short) = some (token, short) := by
  cases text with
  | nil => cases found
  | cons char rest =>
      simp only [cut?] at found
      split_ifs at found with digit letter touches colon empty symbol
      · cases found
        refine ⟨char :: rest.takeWhile Text.isAsciiDigit, by simp, fun short less => ?_⟩
        obtain ⟨taken, left⟩ := takeWhile_truncate less
        simp [cut?, digit, taken, left]
      · cases found
        refine ⟨char :: rest.takeWhile Text.isAsciiLetter, by simp, fun short less => ?_⟩
        obtain ⟨taken, left⟩ := takeWhile_truncate less
        have apart := head?_any_truncate less (by simpa using touches)
        simp [cut?, digit, letter, taken, left, apart]
      · cases found
        refine ⟨char :: rest.takeWhile Text.isAsciiLetter, by simp, fun short less => ?_⟩
        obtain ⟨taken, left⟩ := takeWhile_truncate less
        simp [cut?, digit, letter, colon, taken, left, empty]
      · cases found
        refine ⟨[char], rfl, fun short _ => ?_⟩
        simp [cut?, digit, letter, colon, List.contains_iff_mem.mp symbol]

/-- White space is skipped in the same way when less of the text follows it. -/
theorem skip_truncate {text middle rest : List Char} (left : skip text = middle ++ rest) :
    ∃ front, text = front ++ rest ∧ skip front = middle := by
  refine ⟨text.takeWhile Text.isSpace ++ middle, ?_, ?_⟩
  · rw [List.append_assoc, ← left]
    exact List.takeWhile_append_dropWhile.symm
  · apply (takeWhile_truncate _).2
    exact ⟨rest, left.symm⟩

theorem scan_truncate {text middle rest : List Char} {token : Token}
    (found : scan text = some (token, middle ++ rest)) :
    ∃ front, text = front ++ rest ∧ scan front = some (token, middle) := by
  obtain ⟨⟨first, behind⟩, cut, same⟩ := Option.map_eq_some_iff.mp found
  obtain ⟨rfl, left⟩ := Prod.mk.inj same
  obtain ⟨short, rfl, skipped⟩ := skip_truncate left
  obtain ⟨front, rfl, shorter⟩ := cut?_truncate cut
  refine ⟨front ++ short, by simp, ?_⟩
  rw [scan_of_cut? (shorter short (List.prefix_append short rest)), skipped]

/-- The tokens of a text are read from what stands before the rest. -/
theorem Reads.truncate {text rest : List Char} {tokens : List Token}
    (reads : Reads text tokens rest) : ∃ front, text = front ++ rest ∧ Reads front tokens [] := by
  induction reads with
  | nil => exact ⟨[], rfl, .nil⟩
  | cons found fits _ inductionHypothesis =>
      obtain ⟨middle, rfl, more⟩ := inductionHypothesis
      obtain ⟨front, rfl, first⟩ := scan_truncate found
      exact ⟨front, rfl, .cons first fits more⟩

theorem skip_skip (text : List Char) : skip (skip text) = skip text :=
  List.dropWhile_idempotent Text.isSpace text

/-- The rest behind tokens does not start with white space. -/
theorem Reads.skip_rest {text rest : List Char} {tokens : List Token}
    (reads : Reads text tokens rest) (visible : skip text = text) : skip rest = rest := by
  induction reads with
  | nil => exact visible
  | cons found _ _ inductionHypothesis =>
      obtain ⟨⟨first, behind⟩, -, same⟩ := Option.map_eq_some_iff.mp found
      obtain ⟨-, rfl⟩ := Prod.mk.inj same
      exact inductionHypothesis (skip_skip behind)

end Token

theorem Node.sequenceOf?_eq_foldRight? (nodes : List Node) :
    Node.sequenceOf? nodes = Parser.foldRight? Node.seq nodes := by
  induction nodes with
  | nil => rfl
  | cons statement rest inductionHypothesis =>
      cases rest with
      | nil => rfl
      | cons next others => exact congrArg (Option.map (Node.seq statement)) inductionHypothesis

namespace Rule

open Turtle.Parser

/-- Every statement takes at least one character. -/
theorem statement_consumes {depth : Nat} {input rest : Cursor} {node : Node}
    (matched : statement depth input = .matched node rest) : rest.remaining < input.remaining := by
  obtain ⟨⟨phrase, within⟩, reads, -⟩ := statement_sound depth matched
  obtain ⟨token, more, begins, -⟩ := phrase.tokens_starts
  have shorter : rest.chars.length + phrase.tokens.length ≤ input.chars.length := reads.length_le
  rw [begins, List.length_cons, ← rest.counted, ← input.counted] at shorter
  omega

/-- A run of statements ends where no statement can be read. -/
theorem statement_unmatched_of_many {depth : Nat} {input rest : Cursor} {nodes : List Node}
    (matched : many (statement depth) input = .matched nodes rest) :
    statement depth rest = .unmatched := by
  induction repeats_of_many matched with
  | done missing => exact missing
  | idle found idle => exact absurd (statement_consumes found) idle
  | step _ _ more inductionHypothesis => exact inductionHypothesis more.many_eq

variable {levels : Nat}

theorem statementRun_apply (text : List Char) :
    statementRun levels (.ofList text) = many (statement levels) (.ofList (skip text)) :=
  bind_of_matched _ (spaces_apply text)

/-- Without any level the first statement aborts the run. -/
theorem exists_level_of_many {input rest : Cursor} {nodes : List Node}
    (matched : many (statement levels) input = .matched nodes rest) :
    ∃ inner, levels = inner + 1 := by
  have missing := statement_unmatched_of_many matched
  cases levels with
  | zero => cases missing
  | succ inner => exact ⟨inner, rfl⟩

/-- A run of statements is all that a program reads, and a program needs at least one. -/
theorem program_apply (text : List Char) :
    program levels (.ofList text) = match statementRun levels (.ofList text) with
      | .matched nodes rest =>
          match Node.sequenceOf? nodes with
          | some node => if rest.chars.isEmpty then .matched node rest else .unmatched
          | none => .unmatched
      | .unmatched => .unmatched
      | .aborted cause => .aborted cause := by
  have start : (do
      let _ ← spaces
      statements levels : Rule Node) (.ofList text) = statements levels (.ofList (skip text)) :=
    bind_of_matched _ (spaces_apply text)
  rw [statementRun_apply, program, atEnd, start, statements, statementsOf, binaryRight, refine]
  cases many (statement levels) (.ofList (skip text)) with
  | matched nodes rest =>
      dsimp only
      rw [Node.sequenceOf?_eq_foldRight?]
      cases foldRight? Node.seq nodes <;> rfl
  | unmatched => rfl
  | aborted cause => rfl

/-- The statements found at the front of a text are all that is found in what stands before the
rest. -/
theorem statementRun_truncate {text : List Char} {nodes : List Node} {rest : Cursor}
    (run : statementRun levels (.ofList text) = .matched nodes rest) :
    ∃ front, text = front ++ rest.chars ∧
      statementRun levels (.ofList front) = .matched nodes (.ofList []) := by
  rw [statementRun_apply] at run
  obtain ⟨inner, rfl⟩ := exists_level_of_many run
  obtain ⟨phrases, reads, rfl⟩ := many_sound (statement_sound (inner + 1)) run
  obtain ⟨body, skipped, shorter⟩ := reads.truncate
  obtain ⟨front, rfl, same⟩ := skip_truncate skipped
  refine ⟨front, rfl, ?_⟩
  have complete : Complete (statement (inner + 1))
      (fun phrase : Within (inner + 1) => phrase.1.tokens) (fun phrase => phrase.1.node)
      extendsStatement :=
    fun phrase => statement_takes phrase.1 phrase.2
  have starts : ∀ phrase : Within (inner + 1), ∃ token more,
      phrase.1.tokens = token :: more ∧ extendsStatement token = false := by
    intro phrase
    obtain ⟨token, more, begins, first⟩ := phrase.1.tokens_starts
    exact ⟨token, more, begins, extendsStatement_of_starts first⟩
  rw [statementRun_apply, same]
  exact many_complete complete starts shorter (avoids_end _) (statement_unmatched (avoids_end _))

end Rule

end Turtle
