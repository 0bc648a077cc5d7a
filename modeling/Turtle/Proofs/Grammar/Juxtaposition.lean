import Turtle.Proofs.Source.Coverage

/-
This file reads programs that stand behind one another. White space between two texts keeps their
tokens apart, so that the statements of the second follow those of the first.
-/

namespace Turtle

namespace Text

/-- A text stands between the white space that is stripped off. -/
theorem exists_strip (text : List Char) :
    ∃ before behind, text = before ++ (strip text ++ behind) ∧
      (∀ char ∈ before, isSpace char = true) ∧ ∀ char ∈ behind, isSpace char = true := by
  let inner := text.dropWhile isSpace
  have back : inner = strip text ++ (inner.reverse.takeWhile isSpace).reverse := by
    apply List.reverse_injective
    simp [strip, stripWhile, inner, List.takeWhile_append_dropWhile]
  have front : text = text.takeWhile isSpace ++ inner :=
    List.takeWhile_append_dropWhile.symm
  refine ⟨text.takeWhile isSpace, (inner.reverse.takeWhile isSpace).reverse, ?_, ?_, ?_⟩
  · rw [← back]
    exact front
  · intro char member
    exact List.mem_takeWhile_imp member
  · intro char member
    exact List.mem_takeWhile_imp (List.mem_reverse.mp member)

end Text

namespace Token

theorem separates_of_space {char : Char} (space : Text.isSpace char = true) : Separates char := by
  refine ⟨?_, ?_, Text.isAlphanumeric_of_space space⟩
  · by_contra digit
    rw [isSpace_of_digit (by simpa using digit)] at space
    cases space
  · by_contra letter
    rw [isSpace_of_letter (by simpa using letter)] at space
    cases space

theorem tokenize_nil : tokenize [] = some [] :=
  tokenize_of_skip_nil rfl

/-- White space in front of a text has no tokens. -/
theorem tokenize_spaces_append {gap : List Char}
    (spaces : ∀ char ∈ gap, Text.isSpace char = true) (text : List Char) :
    tokenize (gap ++ text) = tokenize text := by
  have blank : skip gap = [] := List.dropWhile_eq_nil_iff.mpr spaces
  exact tokenize_congr (skip_append_of_nil blank text)

/-- The tokens of two texts with white space between them stand one after another. -/
theorem tokenize_append_spaces {text gap more : List Char} {first second : List Token}
    (front : tokenize text = some first) (nonempty : gap ≠ [])
    (spaces : ∀ char ∈ gap, Text.isSpace char = true) (back : tokenize more = some second) :
    tokenize (text ++ (gap ++ more)) = some (first ++ second) := by
  have behind := (tokenize_spaces_append spaces more).trans back
  cases gap with
  | nil => exact absurd rfl nonempty
  | cons char others =>
      exact tokenize_append front (separates_of_space (spaces char List.mem_cons_self)) behind

/-- White space at the ends of a text has no tokens. -/
theorem tokenize_of_strip {text : List Char} {tokens : List Token}
    (found : tokenize (Text.strip text) = some tokens) : tokenize text = some tokens := by
  obtain ⟨before, behind, whole, front, back⟩ := Text.exists_strip text
  rw [whole, tokenize_spaces_append front]
  by_cases empty : behind = []
  · rw [empty, List.append_nil, found]
  · have all := tokenize_append_spaces found empty back tokenize_nil
    rwa [List.append_nil, List.append_nil] at all

/-- White space between two texts separates their tokens. -/
theorem Spells.spaced {first second gap : String} {front back : List Token}
    (head : Spells first front) (nonempty : gap ≠ "")
    (spaces : ∀ char ∈ gap.toList, Text.isSpace char = true) (tail : Spells second back) :
    Spells (first ++ gap ++ second) (front ++ back) := by
  have separated : gap.toList ≠ [] := by
    intro empty
    exact nonempty (String.toList_eq_nil_iff.mp empty)
  constructor
  · rw [String.toList_append, String.toList_append, List.append_assoc]
    exact tokenize_append_spaces head.1 separated spaces tail.1
  · exact List.forall_mem_append.mpr ⟨head.2, tail.2⟩

end Token

namespace Derivation.Statements

/-- The statements of one run go on with those of another. -/
def append : Statements → Statements → Statements
  | .last statement, more => .next statement more
  | .next statement rest, more => .next statement (append rest more)

theorem tokens_append (first second : Statements) :
    (first.append second).tokens = first.tokens ++ second.tokens := by
  fun_induction append first second with
  | case1 statement more => rfl
  | case2 statement rest more inductionHypothesis =>
      simp only [tokens, inductionHypothesis, List.append_assoc]

theorem nesting_append (first second : Statements) :
    (first.append second).nesting = max first.nesting second.nesting := by
  fun_induction append first second with
  | case1 statement more => rfl
  | case2 statement rest more inductionHypothesis =>
      simp only [nesting, inductionHypothesis, Nat.max_assoc]

theorem flatten_append (first second : Statements) :
    (first.append second).node.flatten = first.node.flatten ++ second.node.flatten := by
  fun_induction append first second with
  | case1 statement more => rfl
  | case2 statement rest more inductionHypothesis =>
      simp only [node, Node.flatten, inductionHypothesis, List.append_assoc]

/-- Two texts with white space between them spell the statements of both, and these nest no deeper
than the deeper of the two. -/
theorem spells_append {levels : Nat} {first second gap : String} {statements others : Statements}
    (front : Token.Spells first statements.tokens) (within : statements.nesting ≤ levels)
    (nonempty : gap ≠ "") (spaces : ∀ char ∈ gap.toList, Text.isSpace char = true)
    (back : Token.Spells second others.tokens) (withinOthers : others.nesting ≤ levels) :
    Token.Spells (first ++ gap ++ second) (statements.append others).tokens ∧
      (statements.append others).nesting ≤ levels := by
  rw [tokens_append, nesting_append]
  exact ⟨front.spaced nonempty spaces back, Nat.max_le.mpr ⟨within, withinOthers⟩⟩

end Derivation.Statements

namespace Program

variable {levels : Nat}

/-- Two programs with white space between them are one program, and its statements are those of the
first before those of the second. -/
theorem read_spaced {first second gap filename : String} {left right : Node}
    (front : read levels first filename = .ok left) (nonempty : gap ≠ "")
    (spaces : ∀ char ∈ gap.toList, Text.isSpace char = true)
    (back : read levels second filename = .ok right) :
    ∃ node, read levels (first ++ gap ++ second) filename = .ok node ∧
      node.flatten = left.flatten ++ right.flatten := by
  obtain ⟨statements, spells, within, rfl⟩ := spells_of_read front
  obtain ⟨others, spellsOthers, withinOthers, rfl⟩ := spells_of_read back
  obtain ⟨whole, nested⟩ :=
    Derivation.Statements.spells_append spells within nonempty spaces spellsOthers withinOthers
  exact ⟨_, read_of_derivation whole nested filename, statements.flatten_append others⟩

/-- A line is read as what is left when the white space at both ends is stripped off. -/
theorem read_of_strip {line : List Char} {filename : String} {node : Node}
    (found : readChars levels (Text.strip line) filename = .ok node) (name : String) :
    read levels (String.ofList line) name = .ok node := by
  rw [← String.toList_ofList (l := Text.strip line)] at found
  obtain ⟨statements, ⟨tokens, fits⟩, within, rfl⟩ := spells_of_read found
  rw [String.toList_ofList] at tokens
  have spells : Token.Spells (String.ofList line) statements.tokens := by
    constructor
    · rw [String.toList_ofList]
      exact Token.tokenize_of_strip tokens
    · exact fits
  exact read_of_derivation spells within name

/-- Lines that are programs, joined by line feeds, are one program with the statements of all. -/
theorem read_lines {line : List Char} {rest : List (List Char)} {node : Node} {nodes : List Node}
    {filename : String}
    (reads : List.Forall₂ (fun line node => read levels (String.ofList line) filename = .ok node)
      (line :: rest) (node :: nodes)) :
    ∃ whole, read levels (String.intercalate "\n" ((line :: rest).map String.ofList)) filename =
        .ok whole ∧
      whole.flatten = (node :: nodes).flatMap Node.flatten := by
  induction rest generalizing line node nodes with
  | nil =>
      obtain ⟨first, others⟩ := List.forall₂_cons.mp reads
      cases others
      exact ⟨node, by simpa using first, by simp⟩
  | cons next rest inductionHypothesis =>
      obtain ⟨first, others⟩ := List.forall₂_cons.mp reads
      cases others with
      | cons second more =>
          obtain ⟨tail, found, flattened⟩ := inductionHypothesis (.cons second more)
          rw [List.map_cons, List.map_cons, String.intercalate_cons_cons, ← List.map_cons]
          have spaces : ∀ char ∈ "\n".toList, Text.isSpace char = true :=
            List.all_eq_true.mp (by decide)
          obtain ⟨whole, joined, all⟩ := read_spaced first (by decide) spaces found
          refine ⟨whole, joined, ?_⟩
          rw [List.flatMap_cons, ← flattened]
          exact all

end Program

/-- Reading carries juxtaposition over to concatenation. Two programs with white space between them
are one program, whatever the first one ends with and the second one begins with, and the flat list
of its statements is that of the first followed by that of the second. -/
theorem program_juxtaposes (levels : Nat) (first second gap : String) (left right : Node)
    (behind after : Cursor)
    (front : Rule.program levels (.ofString first) = .matched left behind) (nonempty : gap ≠ "")
    (spaces : ∀ char ∈ gap.toList, Text.isSpace char = true)
    (back : Rule.program levels (.ofString second) = .matched right after) :
    ∃ node,
      Rule.program levels (.ofString (first ++ gap ++ second)) = .matched node (.ofList []) ∧
      (∀ filename, Program.read levels (first ++ gap ++ second) filename = .ok node) ∧
      node.flatten = left.flatten ++ right.flatten := by
  obtain ⟨statements, spells, within, rfl⟩ := Rule.spells_of_program front
  obtain ⟨others, spellsOthers, withinOthers, rfl⟩ := Rule.spells_of_program back
  obtain ⟨whole, nested⟩ :=
    Derivation.Statements.spells_append spells within nonempty spaces spellsOthers withinOthers
  exact ⟨_, Rule.program_of_spells whole nested, Program.read_of_derivation whole nested,
    statements.flatten_append others⟩

/-- The first program ends in a call that takes as many arguments as follow, and the second one
begins with a name. -/
theorem program_juxtaposes_calls :
    Rule.program 1 (.ofString "box :n") = .matched (.call "box" [.var "n"]) (.ofList []) ∧
      Rule.program 1 (.ofString "stop") = .matched .stop (.ofList []) ∧
      ∃ node, Rule.program 1 (.ofString "box :n\nstop") = .matched node (.ofList []) ∧
        (∀ filename, Program.read 1 "box :n\nstop" filename = .ok node) ∧
        node.flatten = [.call "box" [.var "n"], .stop] := by
  have call := (Token.spells_word (by decide : Text.isWord "box" = true)).blank
    (Token.spells_reference (by decide : Text.isWord "n" = true))
  let callBox : Derivation.Statements :=
    .last (.call ⟨"box", by decide⟩ [.single (.single (.reference "n"))])
  have first :
      Rule.program 1 (.ofString "box :n") = .matched (.call "box" [.var "n"]) (.ofList []) :=
    @Rule.program_of_spells _ _ callBox call (by decide)
  have second : Rule.program 1 (.ofString "stop") = .matched .stop (.ofList []) :=
    @Rule.program_of_spells _ _ (.last .stop) (Token.spells_word (by decide)) (by decide)
  have spaces : ∀ char ∈ "\n".toList, Text.isSpace char = true :=
    List.all_eq_true.mp (by decide)
  exact ⟨first, second,
    program_juxtaposes 1 "box :n" "stop" "\n" _ _ _ _ first (by decide) spaces second⟩

end Turtle
