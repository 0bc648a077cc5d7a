import Turtle.Proofs.Grammar.Expression

/-
This file shows that every statement that is matched has a derivation.
-/

namespace Turtle

open Token Turtle.Derivation

namespace Derivation

/-- These derivations nest no deeper than the depth. -/
abbrev Within (depth : Nat) : Type :=
  { statement : Statement // statement.nesting ≤ depth }

abbrev RunWithin (depth : Nat) : Type :=
  { statements : Statements // statements.nesting ≤ depth }

namespace Statements

/-- A statement with those behind it is a run of statements. -/
def ofList (first : Statement) : List Statement → Statements
  | [] => .last first
  | second :: rest => .next first (ofList second rest)

theorem ofList_tokens (first : Statement) (rest : List Statement) :
    (ofList first rest).tokens = first.tokens ++ rest.flatMap Statement.tokens := by
  induction rest generalizing first with
  | nil => simp [ofList, tokens]
  | cons second rest inductionHypothesis => simp [ofList, tokens, inductionHypothesis]

theorem ofList_node (first : Statement) (rest : List Statement) :
    Parser.foldRight? Node.seq ((first :: rest).map Statement.node) =
      some (ofList first rest).node := by
  induction rest generalizing first with
  | nil => simp [ofList, node, Parser.foldRight?]
  | cons second rest inductionHypothesis =>
      have tail := inductionHypothesis second
      rw [List.map_cons] at tail
      simp only [List.map_cons, Parser.foldRight?, tail, Option.map_some, ofList, node]

theorem ofList_nesting {depth : Nat} {first : Statement} {rest : List Statement}
    (within : ∀ statement ∈ first :: rest, statement.nesting ≤ depth) :
    (ofList first rest).nesting ≤ depth := by
  induction rest generalizing first with
  | nil => exact within first (by simp)
  | cons second rest inductionHypothesis =>
      obtain ⟨here, there⟩ := List.forall_mem_cons.mp within
      exact Nat.max_le.mpr ⟨here, inductionHypothesis there⟩

end Statements

end Derivation

namespace Rule

open Turtle.Parser

variable {depth : Nat} {inner : Rule Node}

theorem keyword_reads {word found : String} {input rest : Cursor}
    (matched : keyword word input = .matched found rest) :
    Reads input.chars [.name word] rest.chars := by
  rw [← Cursor.ofList_chars input, keyword_matched_iff] at matched
  exact .single matched.2 trivial

theorem symbol_reads {sign found : Char} (member : sign ∈ symbols) {input rest : Cursor}
    (matched : (Parser.symbol sign : Rule Char) input = .matched found rest) :
    Reads input.chars [.symbol sign] rest.chars := by
  rw [← Cursor.ofList_chars input, symbol_matched_iff member] at matched
  exact .single matched.2 trivial

theorem unreserved_reads {word : String} {input rest : Cursor}
    (matched : unreserved input = .matched word rest) :
    word ∉ reservedWords ∧ Reads input.chars [.name word] rest.chars := by
  rw [← Cursor.ofList_chars input, unreserved_matched_iff] at matched
  exact ⟨matched.1, .single matched.2 trivial⟩

theorem statementsOf_sound
    (sound : Sound inner (fun phrase : Within depth => phrase.1.tokens)
      (fun phrase => phrase.1.node)) :
    Sound (statementsOf inner) (fun phrase : RunWithin depth => phrase.1.tokens)
      (fun phrase => phrase.1.node) := by
  intro input rest found matched
  unfold statementsOf binaryRight refine at matched
  cases repeated : many inner input with
  | matched nodes last =>
      obtain ⟨phrases, reads, rfl⟩ := many_sound sound repeated
      simp only [repeated] at matched
      cases phrases with
      | nil => cases matched
      | cons first others =>
          have folded := Statements.ofList_node first.1 (others.map Subtype.val)
          rw [List.map_cons, List.map_map] at folded
          rw [List.map_cons] at matched
          simp only [Function.comp_def] at folded
          rw [folded] at matched
          cases matched
          refine ⟨⟨.ofList first.1 (others.map Subtype.val), ?_⟩, ?_, rfl⟩
          · apply Statements.ofList_nesting
            rw [← List.map_cons]
            intro statement member
            obtain ⟨phrase, -, rfl⟩ := List.mem_map.mp member
            exact phrase.2
          · simpa [Statements.ofList_tokens, List.flatMap_map] using reads
  | unmatched => simp [repeated] at matched
  | aborted cause => simp [repeated] at matched

/-- The phrases of an alternative nest one level deeper than those of its inner rule. -/
abbrev SoundWithin (depth : Nat) (rule : Rule Node) : Prop :=
  Sound rule (fun phrase : Within depth => phrase.1.tokens) (fun phrase => phrase.1.node)

theorem command_sound (kind : Command) :
    SoundWithin (depth + 1) (command kind.word kind.build) := by
  intro input rest found matched
  unfold command at matched
  obtain ⟨_, middle, word, matched⟩ := bind_matched_iff.mp matched
  obtain ⟨_, last, operand, matched⟩ := bind_matched_iff.mp matched
  obtain ⟨phrase, reads, rfl⟩ := expression_sound operand
  cases matched
  exact ⟨⟨.command kind phrase, by simp [Statement.nesting]⟩, (keyword_reads word).append reads,
    rfl⟩

theorem loop_sound (sound : SoundWithin depth inner) : SoundWithin (depth + 1) (loop inner) := by
  intro input rest found matched
  unfold loop at matched
  obtain ⟨_, _, word, matched⟩ := bind_matched_iff.mp matched
  obtain ⟨_, _, times, matched⟩ := bind_matched_iff.mp matched
  obtain ⟨_, _, body, matched⟩ := bind_matched_iff.mp matched
  obtain ⟨count, countReads, rfl⟩ := expression_sound times
  obtain ⟨⟨statement, within⟩, bodyReads, rfl⟩ := sound body
  cases matched
  exact ⟨⟨.loop count statement, Nat.succ_le_succ within⟩,
    (keyword_reads word).append (countReads.append bodyReads), rfl⟩

theorem definition_sound (sound : SoundWithin depth inner) :
    SoundWithin (depth + 1) (definition inner) := by
  intro input rest found matched
  unfold definition at matched
  obtain ⟨_, _, word, matched⟩ := bind_matched_iff.mp matched
  obtain ⟨name, _, named, matched⟩ := bind_matched_iff.mp matched
  obtain ⟨_, _, listed, matched⟩ := bind_matched_iff.mp matched
  obtain ⟨_, _, body, matched⟩ := bind_matched_iff.mp matched
  obtain ⟨_, _, ending, matched⟩ := bind_matched_iff.mp matched
  obtain ⟨unreserved, nameReads⟩ := unreserved_reads named
  obtain ⟨params, paramsRead, rfl⟩ := many_sound variableName_sound listed
  obtain ⟨⟨statements, within⟩, bodyReads, rfl⟩ := statementsOf_sound sound body
  cases matched
  refine ⟨⟨.define ⟨name, unreserved⟩ params statements, Nat.succ_le_succ within⟩, ?_, by
    simp [Statement.node]⟩
  simp only [Statement.tokens, List.map_eq_flatMap]
  exact (keyword_reads word).append
    (nameReads.append (paramsRead.append (bodyReads.append (keyword_reads ending))))

theorem branch_sound (sound : SoundWithin depth inner) :
    SoundWithin (depth + 1) (branch inner) := by
  intro input rest found matched
  unfold branch comparison at matched
  obtain ⟨_, _, word, matched⟩ := bind_matched_iff.mp matched
  obtain ⟨_, _, condition, matched⟩ := bind_matched_iff.mp matched
  obtain ⟨_, _, body, matched⟩ := bind_matched_iff.mp matched
  obtain ⟨_, _, first, condition⟩ := bind_matched_iff.mp condition
  obtain ⟨_, _, sign, condition⟩ := bind_matched_iff.mp condition
  obtain ⟨_, _, second, condition⟩ := bind_matched_iff.mp condition
  obtain ⟨left, leftReads, rfl⟩ := expression_sound first
  obtain ⟨right, rightReads, rfl⟩ := expression_sound second
  obtain ⟨⟨statement, within⟩, bodyReads, rfl⟩ := sound body
  cases condition
  cases matched
  refine ⟨⟨.branch left right statement, Nat.succ_le_succ within⟩, ?_, rfl⟩
  exact (keyword_reads word).append (leftReads.append
    ((symbol_reads (by decide) sign).append (rightReads.append bodyReads)))

theorem stop_sound : SoundWithin (depth + 1) stop := by
  intro input rest found matched
  unfold stop at matched
  obtain ⟨_, _, word, matched⟩ := bind_matched_iff.mp matched
  cases matched
  exact ⟨⟨.stop, by simp [Statement.nesting]⟩, keyword_reads word, rfl⟩

theorem call_sound : SoundWithin (depth + 1) call := by
  intro input rest found matched
  unfold call at matched
  obtain ⟨name, _, named, matched⟩ := bind_matched_iff.mp matched
  obtain ⟨_, _, listed, matched⟩ := bind_matched_iff.mp matched
  obtain ⟨unreserved, nameReads⟩ := unreserved_reads named
  obtain ⟨args, argsRead, rfl⟩ := many_sound expression_sound listed
  cases matched
  exact ⟨⟨.call ⟨name, unreserved⟩ args, by simp [Statement.nesting]⟩, nameReads.append argsRead,
    rfl⟩

theorem block_sound (sound : SoundWithin depth inner) : SoundWithin (depth + 1) (block inner) := by
  intro input rest found matched
  unfold block brackets at matched
  obtain ⟨_, _, opening, matched⟩ := bind_matched_iff.mp matched
  obtain ⟨_, _, body, matched⟩ := bind_matched_iff.mp matched
  obtain ⟨_, _, closing, matched⟩ := bind_matched_iff.mp matched
  obtain ⟨⟨statements, within⟩, bodyReads, rfl⟩ := statementsOf_sound sound body
  cases matched
  exact ⟨⟨.block statements, Nat.succ_le_succ within⟩,
    (symbol_reads (by decide) opening).append
      (bodyReads.append (symbol_reads (by decide) closing)), rfl⟩

/-- Every statement that is matched has a derivation within the depth. -/
theorem statement_sound (depth : Nat) : SoundWithin depth (statement depth) := by
  induction depth with
  | zero =>
      intro input rest found matched
      cases matched
  | succ depth inductionHypothesis =>
      intro input rest found matched
      obtain ⟨rule, member, matched⟩ := choice_matched matched
      simp only [alternatives, List.mem_cons, List.not_mem_nil, or_false] at member
      rcases member with rfl | rfl | rfl | rfl | rfl | rfl | rfl | rfl | rfl
      · exact command_sound .forward matched
      · exact command_sound .rotate matched
      · exact command_sound .setHeading matched
      · exact loop_sound inductionHypothesis matched
      · exact definition_sound inductionHypothesis matched
      · exact branch_sound inductionHypothesis matched
      · exact stop_sound matched
      · exact call_sound matched
      · exact block_sound inductionHypothesis matched

end Rule

end Turtle
