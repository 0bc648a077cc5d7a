import Turtle.Proofs.Combinators

/-
This file follows the causes for which a parser gives up a text through the combinators: none of
them adds a cause of its own.
-/

namespace Turtle.Parser

variable {ε α β : Type} {holds : ε → Prop}

/-- The parser gives up a text for such causes only. -/
def AbortsOnly (holds : ε → Prop) (parser : Parser ε α) : Prop :=
  ∀ input cause, parser input = .aborted cause → holds cause

/-- The parser never gives up a text. -/
def NeverAborts (parser : Parser ε α) : Prop :=
  parser.AbortsOnly fun _ => False

theorem many_of_aborted {parser : Parser ε α} {input : Cursor} {cause : ε}
    (given : parser input = .aborted cause) : many parser input = .aborted cause := by
  simp [many, manyWithin, given]

theorem many_of_idle {parser : Parser ε α} {input rest : Cursor} {value : α}
    (found : parser input = .matched value rest) (idle : ¬rest.remaining < input.remaining) :
    many parser input = .matched [] input :=
  (Repeats.idle found idle).many_eq

namespace AbortsOnly

theorem pure (value : α) : AbortsOnly holds (Pure.pure value : Parser ε α) :=
  nofun

theorem satisfy (test : Char → Bool) : AbortsOnly holds (Parser.satisfy test : Parser ε Char) := by
  rintro ⟨chars, remaining, counted⟩ cause given
  cases chars with
  | nil => cases given
  | cons char rest =>
      simp only [Parser.satisfy, Cursor.next?] at given
      split at given <;> simp at given

theorem bind {parser : Parser ε α} {next : α → Parser ε β} (first : AbortsOnly holds parser)
    (others : ∀ value, AbortsOnly holds (next value)) : AbortsOnly holds (parser >>= next) := by
  intro input cause given
  rw [bind_apply] at given
  cases reply : parser input with
  | matched value rest =>
      rw [reply] at given
      exact others value rest cause given
  | unmatched => simp [reply] at given
  | aborted other =>
      simp only [reply, Reply.aborted.injEq] at given
      exact given ▸ first input other reply

theorem map {parser : Parser ε α} (first : AbortsOnly holds parser) (build : α → β) :
    AbortsOnly holds (build <$> parser) :=
  first.bind fun value => .pure (build value)

theorem choice {parsers : List (Parser ε α)} (each : ∀ parser ∈ parsers, AbortsOnly holds parser) :
    AbortsOnly holds (Parser.choice parsers) := by
  induction parsers with
  | nil => exact nofun
  | cons parser rest inductionHypothesis =>
      obtain ⟨first, others⟩ := List.forall_mem_cons.mp each
      intro input cause given
      cases reply : parser input with
      | matched value behind => simp [Parser.choice, reply] at given
      | unmatched =>
          simp only [Parser.choice, reply] at given
          exact inductionHypothesis others input cause given
      | aborted other =>
          simp only [Parser.choice, reply, Reply.aborted.injEq] at given
          exact given ▸ first input other reply

theorem many {parser : Parser ε α} (each : AbortsOnly holds parser) :
    AbortsOnly holds (Parser.many parser) := by
  intro input cause given
  induction size : input.remaining using Nat.strongRecOn generalizing input with
  | ind length inductionHypothesis =>
      cases reply : parser input with
      | matched value middle =>
          by_cases consumes : middle.remaining < input.remaining
          · rw [many_of_matched reply consumes] at given
            cases more : Parser.many parser middle with
            | matched values rest => simp [more, Reply.map] at given
            | unmatched => simp [more, Reply.map] at given
            | aborted other =>
                simp only [more, Reply.map, Reply.aborted.injEq] at given
                exact inductionHypothesis middle.remaining (size ▸ consumes) middle
                  (given ▸ more) rfl
          · rw [many_of_idle reply consumes] at given
            cases given
      | unmatched =>
          rw [many_of_unmatched reply] at given
          cases given
      | aborted other =>
          rw [many_of_aborted reply] at given
          cases given
          exact each input _ reply

theorem binaryLeft {base : Parser ε α} {operator : Parser ε β} (operands : AbortsOnly holds base)
    (signs : AbortsOnly holds operator) (combine : β → α → α → α) :
    AbortsOnly holds (Parser.binaryLeft base operator combine) := by
  have tail := signs.bind fun sign => operands.bind fun right => .pure (sign, right)
  exact operands.bind fun first => tail.many.bind fun tails => .pure _

end AbortsOnly

/-- A repetition whose parser never gives up a text runs to its end everywhere. -/
theorem NeverAborts.exists_repeats {parser : Parser ε α} (settled : NeverAborts parser)
    (input : Cursor) : ∃ values rest, Repeats parser input values rest := by
  cases run : many parser input with
  | matched values rest => exact ⟨values, rest, repeats_of_many run⟩
  | unmatched => exact absurd run (manyWithin_ne_unmatched _ _ _ _)
  | aborted cause => exact (settled.many input cause run).elim

end Turtle.Parser
