import Turtle.Proofs.Diagnostic.Rejection
import Turtle.Proofs.Grammar.Juxtaposition

/-
This file reads a program that goes on where no token carries it on. White space at the end of the
program keeps its tokens as they are, so all its statements are found and the rest is left.
-/

namespace Turtle

open Token

namespace Token

/-- White space at the end of a text changes nothing about its tokens. -/
theorem tokenize_append_space {char : Char} (space : Text.isSpace char = true)
    (text : List Char) : tokenize (text ++ [char]) = tokenize text := by
  have separates := separates_of_space space
  fun_induction tokenize text with
  | case1 text blank =>
      rw [tokenize_congr (skip_append_of_nil blank [char]), tokenize_space_cons space, tokenize_nil]
  | case2 text start rest begins missing =>
      rw [tokenize_of_skip_cons (skip_append_of_cons begins [char]), cut?_cons_append separates,
        missing]
      rfl
  | case3 text start rest begins token behind cut inductionHypothesis =>
      rw [tokenize_of_skip_cons (skip_append_of_cons begins [char]), cut?_cons_append separates,
        cut]
      exact congrArg (Option.map (token :: ·)) inductionHypothesis

/-- The tokens of a text are read from its front when more follows behind white space. -/
theorem reads_append_space {text : List Char} {tokens : List Token} {char : Char}
    (found : tokenize text = some tokens) (fits : ∀ token ∈ tokens, token.Fits)
    (space : Text.isSpace char = true) (more : List Char) :
    Reads (skip (text ++ char :: more)) tokens (skip more) := by
  fun_induction tokenize text generalizing tokens with
  | case1 text blank =>
      cases found
      have skipped : skip (char :: more) = skip more := by simp [skip, space]
      rw [skip_append_of_nil blank, skipped]
      exact .nil
  | case2 text start rest begins missing => cases found
  | case3 text start rest begins token behind cut inductionHypothesis =>
      obtain ⟨others, behindFound, rfl⟩ := Option.map_eq_some_iff.mp found
      obtain ⟨firstFits, othersFit⟩ := List.forall_mem_cons.mp fits
      have longer := cut?_append (separates_of_space space) cut more
      rw [skip_append_of_cons begins]
      exact .cons (scan_of_cut? longer) firstFits (inductionHypothesis behindFound othersFit)

end Token

namespace Program

/-- A text is closed when it is empty or a program that ends with white space. -/
def Closed (levels : Nat) (text : String) : Prop :=
  text = "" ∨ (∃ filename node, read levels text filename = .ok node) ∧
    text.toList.getLast?.any Text.isSpace = true

/-- White space closes a program. -/
theorem closed_of_read {levels : Nat} {text filename : String} {node : Node} {space : Char}
    (found : read levels text filename = .ok node) (isSpace : Text.isSpace space = true) :
    Closed levels (text ++ String.singleton space) := by
  obtain ⟨statements, ⟨tokens, fits⟩, within, -⟩ := spells_of_read found
  have whole : (text ++ String.singleton space).toList = text.toList ++ [space] := by simp
  have spells : Spells (text ++ String.singleton space) statements.tokens := by
    refine ⟨?_, fits⟩
    rw [whole, tokenize_append_space isSpace, tokens]
  refine .inr ⟨⟨filename, _, read_of_derivation spells within filename⟩, ?_⟩
  rw [whole]
  simpa using isSpace

/-- The statements of a closed text are found up to what follows it, where no token carries them
on. -/
theorem Closed.statementRun {levels : Nat} {before : String} (closed : Closed (levels + 1) before)
    {more : List Char} (visible : skip more = more) (stuck : Avoids extendsRun more) :
    ∃ nodes, Rule.statementRun (levels + 1) (.ofList (before.toList ++ more)) =
      .matched nodes (.ofList more) := by
  rcases closed with rfl | ⟨⟨filename, node, found⟩, ends⟩
  · refine ⟨[], ?_⟩
    have first : Avoids startsStatement more :=
      stuck.mono fun token starts => by simp [extendsRun, starts]
    rw [String.toList_empty, List.nil_append, Rule.statementRun_apply, visible]
    exact Parser.many_of_unmatched (Rule.statement_unmatched first)
  · obtain ⟨statements, ⟨tokens, fits⟩, within, -⟩ := spells_of_read found
    obtain ⟨front, space, whole, isSpace⟩ : ∃ front space,
        before.toList = front ++ [space] ∧ Text.isSpace space = true := by
      rcases before.toList.eq_nil_or_concat with empty | ⟨front, space, whole⟩
      · simp [empty] at ends
      · rw [List.concat_eq_append] at whole
        exact ⟨front, space, whole, by simpa [whole] using ends⟩
    rw [whole, tokenize_append_space isSpace] at tokens
    have reads := reads_append_space tokens fits isSpace more
    rw [visible] at reads
    refine ⟨statements.nodes, ?_⟩
    rw [whole, List.append_assoc, List.singleton_append, Rule.statementRun_apply]
    exact Rule.many_statement_takes statements within reads stuck

end Program

end Turtle
