import Turtle.Combination
import Turtle.Proofs.Combinators
import Mathlib.Data.List.Infix

/-
This file gives rules for how the application of a combination ends. The rules have no budget: a
repetition ends only through a finite chain of rounds. Every application ends with one reply,
which is the reply of the building parser, and a match leaves an end of the text.
-/

namespace Turtle

/-- An ending tells with which reply, and with which labels built, an application can end. -/
def Ending (ε α : Type) : Type :=
  List Nat → Cursor → Reply ε α → List Nat → Prop

variable {ε α β : Type}

/-- A building parser ends with the reply that it computes. -/
def Building.Gives (parser : Building ε α) : Ending ε α := fun built input reply after =>
  parser built input = (reply, after)

namespace Ending

@[ext] theorem ext {first second : Ending ε α}
    (same : ∀ built input reply after,
      first built input reply after ↔ second built input reply after) : first = second := by
  funext built input reply after
  exact propext (same built input reply after)

/-- The next part starts where a match stops, and any other reply is the reply of the whole. -/
inductive Follows (first : Ending ε α) (next : α → Ending ε β) : Ending ε β where
  | matched {built between after : List Nat} {input middle : Cursor} {value : α}
      {reply : Reply ε β} (found : first built input (.matched value middle) between)
      (continued : next value between middle reply after) :
      Follows first next built input reply after
  | unmatched {built after : List Nat} {input : Cursor}
      (missing : first built input .unmatched after) :
      Follows first next built input .unmatched after
  | aborted {built after : List Nat} {input : Cursor} {cause : ε}
      (given : first built input (.aborted cause) after) :
      Follows first next built input (.aborted cause) after

instance : Monad (Ending ε) where
  pure value := fun built input reply after => reply = .matched value input ∧ after = built
  bind := Follows

/-- A repetition ends at a round that does not match or consumes nothing. It goes on behind a
round that consumes something, and is given up with a round that is given up. -/
inductive Rounds (round : Ending ε α) : Ending ε (List α) where
  | done {built after : List Nat} {input : Cursor} (missing : round built input .unmatched after) :
      Rounds round built input (.matched [] input) after
  | idle {built after : List Nat} {input rest : Cursor} {value : α}
      (found : round built input (.matched value rest) after)
      (idle : ¬rest.remaining < input.remaining) :
      Rounds round built input (.matched [] input) after
  | aborted {built after : List Nat} {input : Cursor} {cause : ε}
      (given : round built input (.aborted cause) after) :
      Rounds round built input (.aborted cause) after
  | step {built between after : List Nat} {input middle : Cursor} {value : α}
      {reply : Reply ε (List α)} (found : round built input (.matched value middle) between)
      (consumes : middle.remaining < input.remaining)
      (more : Rounds round between middle reply after) :
      Rounds round built input (reply.map (value :: ·)) after

def andThen (ending : Ending ε α) (next : Reply ε α → Reply ε β) : Ending ε β :=
  fun built input answer after =>
    ∃ reply, ending built input reply after ∧ answer = next reply

def sequence : List (Ending ε α) → Ending ε (List α)
  | [] => pure []
  | ending :: rest => do
      let value ← ending
      let values ← sequence rest
      return value :: values

/-- A later alternative is tried on the same text when the ones before it do not match. -/
def choice : List (Ending ε α) → Ending ε α
  | [] => fun built _ reply after => reply = .unmatched ∧ after = built
  | ending :: rest => fun built input reply after =>
      (ending built input reply after ∧ reply ≠ .unmatched) ∨
        ∃ between, ending built input .unmatched between ∧ choice rest between input reply after

def deferred (label : Nat) (ending : Ending ε α) : Ending ε α := fun built =>
  ending (if built.contains label then built else label :: built)

end Ending

namespace Combination

mutual

/-- The application of a combination ends by the rules of its parts. -/
def Ends : Combination ε α → Ending ε α
  | .satisfy test build => build <$> (Building.ofParser (Parser.satisfy test)).Gives
  | .map part action => (Ends part).andThen (Reply.convert action)
  | .many part collect => collect <$> Ending.Rounds (Ends part)
  | .keep part test =>
      (Ends part).andThen fun reply => (reply.convert (keepWhen test)).refine id
  | .sequence parts collect => collect <$> Ending.sequence (AllEnd parts)
  | .choice parts => Ending.choice (AllEnd parts)
  | .deferred label part => Ending.deferred label (Ends part)
  | .lexeme part bounded => do
      let value ← Ends part
      let blanks ← Ending.Rounds (Building.ofParser (Parser.satisfy Text.isSpace)).Gives
      if bounded && blanks.isEmpty then
        (Building.ofParser (Parser.notBefore Text.isAlphanumeric value)).Gives
      else return value
  | .binaryLeft base operator combine => do
      let first ← Ends base
      let tails ← Ending.Rounds do
        let sign ← Ends operator
        let right ← Ends base
        return (sign, right)
      return tails.foldl (fun left tail => combine tail.1 left tail.2) first
  | .binaryRight base combine =>
      (Ending.Rounds (Ends base)).andThen (Reply.refine (Parser.foldRight? combine))
  | .brackets opening inner closing => do
      let _ ← Ends opening
      let value ← Ends inner
      let _ ← Ends closing
      return value
  | .atEnd part => (Ends part).andThen Reply.atEnd

def AllEnd : List (Combination ε α) → List (Ending ε α)
  | [] => []
  | part :: rest => Ends part :: AllEnd rest

end

end Combination

namespace Building

theorem gives_pure (value : α) : (pure value : Building ε α).Gives = pure value := by
  ext built input reply after
  constructor
  · rintro ⟨⟩
    exact ⟨rfl, rfl⟩
  · rintro ⟨rfl, rfl⟩
    rfl

theorem bind_apply (parser : Building ε α) (next : α → Building ε β) (built : List Nat)
    (input : Cursor) :
    (parser >>= next) built input = match parser built input with
      | (.matched value rest, built) => next value built rest
      | (.unmatched, built) => (.unmatched, built)
      | (.aborted cause, built) => (.aborted cause, built) := rfl

theorem gives_bind (parser : Building ε α) (next : α → Building ε β) :
    (parser >>= next).Gives = parser.Gives >>= fun value => (next value).Gives := by
  ext built input reply after
  rw [Gives, bind_apply]
  constructor
  · intro found
    rcases first : parser built input with ⟨_ | _ | _, between⟩ <;> rw [first] at found
    · exact .matched first found
    · cases found
      exact .unmatched first
    · cases found
      exact .aborted first
  · rintro (⟨found, continued⟩ | missing | given)
    · rw [show parser built input = _ from found]
      exact continued
    · rw [show parser built input = _ from missing]
    · rw [show parser built input = _ from given]

theorem gives_map (f : α → β) (parser : Building ε α) :
    (f <$> parser).Gives = f <$> parser.Gives := by
  change (parser >>= fun value => pure (f value)).Gives = _
  simp only [gives_bind, gives_pure]
  rfl

theorem gives_andThen (parser : Building ε α) (next : Reply ε α → Reply ε β) :
    (parser.andThen next).Gives = parser.Gives.andThen next := by
  ext built input answer after
  constructor
  · rintro ⟨⟩
    exact ⟨_, rfl, rfl⟩
  · rintro ⟨reply, found, rfl⟩
    simp only [Gives, andThen, show parser built input = _ from found]

/-- Every chain of rounds fits into a budget above the length of the text. -/
theorem manyWithin_of_rounds {parser : Building ε α} {built after : List Nat} {input : Cursor}
    {reply : Reply ε (List α)} (rounds : Ending.Rounds parser.Gives built input reply after)
    {budget : Nat} (enough : input.remaining ≤ budget) (found : List α) :
    manyWithin parser (budget + 1) found built input =
      (reply.map (found.reverse ++ ·), after) := by
  induction rounds generalizing budget found with
  | done missing =>
      simp only [manyWithin, show parser _ _ = _ from missing, Reply.map, List.append_nil]
  | idle matched idle =>
      simp only [manyWithin, show parser _ _ = _ from matched, idle, if_false, Reply.map,
        List.append_nil]
  | aborted given =>
      simp only [manyWithin, show parser _ _ = _ from given, Reply.map]
  | @step _ _ _ _ _ value reply matched consumes _ inductionHypothesis =>
      -- The round has consumed something, so the budget was not the last unit.
      obtain ⟨smaller, rfl⟩ : ∃ smaller, budget = smaller + 1 := ⟨budget - 1, by omega⟩
      rw [manyWithin]
      simp only [show parser _ _ = _ from matched, consumes, if_true]
      rw [inductionHypothesis (by omega)]
      cases reply <;> simp [Reply.map]

/-- The rounds of a building parser come to an end, because each of them shortens the text. -/
theorem exists_rounds (parser : Building ε α) (built : List Nat) (input : Cursor) :
    ∃ reply after, Ending.Rounds parser.Gives built input reply after := by
  induction size : input.remaining using Nat.strongRecOn generalizing built input with
  | ind length inductionHypothesis =>
      rcases round : parser built input with ⟨⟨value, rest⟩ | _ | cause, between⟩
      · by_cases consumes : rest.remaining < input.remaining
        · obtain ⟨reply, after, more⟩ :=
            inductionHypothesis rest.remaining (size ▸ consumes) between rest rfl
          exact ⟨_, after, .step round consumes more⟩
        · exact ⟨_, between, .idle round consumes⟩
      · exact ⟨_, between, .done round⟩
      · exact ⟨_, between, .aborted round⟩

theorem gives_many (parser : Building ε α) :
    (many parser).Gives = Ending.Rounds parser.Gives := by
  have computed {built input reply after}
      (rounds : Ending.Rounds parser.Gives built input reply after) :
      many parser built input = (reply, after) := by
    rw [many, manyWithin_of_rounds rounds le_rfl []]
    cases reply <;> rfl
  ext built input reply after
  refine ⟨fun found => ?_, computed⟩
  -- The chain that exists computes a reply, and the parser computes only one.
  obtain ⟨answer, last, rounds⟩ := exists_rounds parser built input
  cases (computed rounds).symm.trans found
  exact rounds

theorem gives_sequence (parsers : List (Building ε α)) :
    (sequence parsers).Gives = Ending.sequence (parsers.map Gives) := by
  induction parsers with
  | nil => exact gives_pure []
  | cons parser rest inductionHypothesis =>
      simp only [sequence, Ending.sequence, List.map_cons, gives_bind, gives_pure,
        inductionHypothesis]

theorem gives_choice (parsers : List (Building ε α)) :
    (choice parsers).Gives = Ending.choice (parsers.map Gives) := by
  induction parsers with
  | nil =>
      ext built input reply after
      simp only [choice, Gives, Ending.choice, List.map_nil, Prod.mk.injEq, eq_comm]
  | cons parser rest inductionHypothesis =>
      ext built input reply after
      simp only [List.map_cons, Ending.choice, ← inductionHypothesis, Gives, choice]
      rcases parser built input with ⟨_ | _ | _, between⟩ <;> grind

theorem gives_deferred (label : Nat) (parser : Building ε α) :
    (deferred label parser).Gives = Ending.deferred label parser.Gives := rfl

/-- A repetition without deferred parts builds nothing. -/
theorem many_ofParser (parser : Parser ε α) :
    many (ofParser parser) = ofParser (Parser.many parser) := by
  funext built input
  suffices within : ∀ budget found input, manyWithin (ofParser parser) budget found built input =
      (Parser.manyWithin parser budget found input, built) from within _ _ _
  intro budget
  induction budget with
  | zero => exact fun _ _ => rfl
  | succ budget inductionHypothesis =>
      intro found input
      simp only [manyWithin, Parser.manyWithin, ofParser]
      cases parser input with
      | matched value rest =>
          by_cases consumes : rest.remaining < input.remaining
          · simp only [consumes, if_true]
            exact inductionHypothesis _ _
          · simp [consumes]
      | unmatched => rfl
      | aborted cause => rfl

end Building

namespace Combination

mutual

/-- An application ends exactly with the reply that the building parser computes. -/
theorem ends_eq_gives : ∀ combination : Combination ε α,
    combination.Ends = combination.building.Gives
  | .satisfy test build => by
      rw [Ends, building, Building.gives_map]
  | .map part action => by
      rw [Ends, building, Building.gives_andThen, ends_eq_gives part]
  | .many part collect => by
      rw [Ends, building, Building.gives_map, Building.gives_many, ends_eq_gives part]
  | .keep part test => by
      rw [Ends, building, Building.gives_andThen, ends_eq_gives part]
  | .sequence parts collect => by
      rw [Ends, building, Building.gives_map, Building.gives_sequence, allEnd_eq_gives parts]
  | .choice parts => by
      rw [Ends, building, Building.gives_choice, allEnd_eq_gives parts]
  | .deferred label part => by
      rw [Ends, building, Building.gives_deferred, ends_eq_gives part]
  | .lexeme part bounded => by
      simp only [Ends, building, ends_eq_gives part, ← Building.gives_many,
        Building.many_ofParser, Building.gives_bind, apply_ite Building.Gives,
        Building.gives_pure, Parser.spaces]
  | .binaryLeft base operator combine => by
      simp only [Ends, building, ends_eq_gives base, ends_eq_gives operator,
        Building.gives_bind, Building.gives_pure, Building.gives_many]
  | .binaryRight base combine => by
      rw [Ends, building, Building.gives_andThen, Building.gives_many, ends_eq_gives base]
  | .brackets opening inner closing => by
      simp only [Ends, building, ends_eq_gives opening, ends_eq_gives inner,
        ends_eq_gives closing, Building.gives_bind, Building.gives_pure]
  | .atEnd part => by
      rw [Ends, building, Building.gives_andThen, ends_eq_gives part]

theorem allEnd_eq_gives : ∀ combinations : List (Combination ε α),
    AllEnd combinations = (buildings combinations).map Building.Gives
  | [] => rfl
  | part :: rest => by
      rw [AllEnd, buildings, List.map_cons, ends_eq_gives part, allEnd_eq_gives rest]

end

end Combination

namespace Reply

/-- The follow-up of a reply does not move the end that a match leaves. -/
def KeepsRest (next : Reply ε α → Reply ε β) : Prop :=
  ∀ ⦃reply value rest⦄, next reply = .matched value rest → ∃ first, reply = .matched first rest

theorem keepsRest_convert (action : α → Except ε β) :
    KeepsRest (convert action : Reply ε α → Reply ε β) := by
  intro reply value rest found
  cases reply with
  | matched first middle =>
      simp only [convert] at found
      split at found <;> cases found
      exact ⟨first, rfl⟩
  | unmatched => cases found
  | aborted cause => cases found

theorem keepsRest_refine (view : α → Option β) :
    KeepsRest (refine view : Reply ε α → Reply ε β) := by
  intro reply value rest found
  cases reply with
  | matched first middle =>
      simp only [refine] at found
      split at found <;> cases found
      exact ⟨first, rfl⟩
  | unmatched => cases found
  | aborted cause => cases found

theorem keepsRest_atEnd : KeepsRest (atEnd : Reply ε α → Reply ε α) := by
  intro reply value rest found
  cases reply with
  | matched first middle =>
      simp only [atEnd] at found
      split at found <;> cases found
      exact ⟨value, rfl⟩
  | unmatched => cases found
  | aborted cause => cases found

end Reply

namespace Ending

/-- What a match leaves is an end of the text. -/
def LeavesEnd (ending : Ending ε α) : Prop :=
  ∀ ⦃built input value rest after⦄, ending built input (.matched value rest) after →
    rest.chars <:+ input.chars

theorem leavesEnd_pure (value : α) : LeavesEnd (pure value : Ending ε α) := by
  rintro built input _ _ _ ⟨⟨⟩, rfl⟩
  exact List.suffix_rfl

theorem LeavesEnd.bind {ending : Ending ε α} {next : α → Ending ε β} (first : ending.LeavesEnd)
    (second : ∀ value, (next value).LeavesEnd) : (ending >>= next).LeavesEnd := by
  rintro built input value rest after ⟨found, continued⟩
  exact (second _ continued).trans (first found)

theorem LeavesEnd.map {ending : Ending ε α} (leaves : ending.LeavesEnd) (f : α → β) :
    (f <$> ending).LeavesEnd :=
  leaves.bind fun value => leavesEnd_pure (f value)

/-- Every round of a repetition leaves an end of what the round before it left. -/
theorem LeavesEnd.rounds {round : Ending ε α} (leaves : round.LeavesEnd) :
    (Rounds round).LeavesEnd := by
  intro built input values rest after rounds
  generalize same : Reply.matched values rest = reply at rounds
  induction rounds generalizing values with
  | done =>
      cases same
      exact List.suffix_rfl
  | idle =>
      cases same
      exact List.suffix_rfl
  | aborted => cases same
  | @step _ _ _ _ _ _ reply found _ _ inductionHypothesis =>
      cases reply with
      | matched others last =>
          cases same
          exact (inductionHypothesis rfl).trans (leaves found)
      | unmatched => cases same
      | aborted cause => cases same

theorem LeavesEnd.andThen {ending : Ending ε α} {next : Reply ε α → Reply ε β}
    (leaves : ending.LeavesEnd) (keeps : Reply.KeepsRest next) :
    (ending.andThen next).LeavesEnd := by
  rintro built input value rest after ⟨reply, found, same⟩
  obtain ⟨first, rfl⟩ := keeps same.symm
  exact leaves found

theorem LeavesEnd.sequence {endings : List (Ending ε α)}
    (leave : ∀ ending ∈ endings, ending.LeavesEnd) : (sequence endings).LeavesEnd := by
  induction endings with
  | nil => exact leavesEnd_pure []
  | cons ending rest inductionHypothesis =>
      obtain ⟨here, there⟩ := List.forall_mem_cons.mp leave
      exact here.bind fun _ => (inductionHypothesis there).map _

theorem LeavesEnd.choice {endings : List (Ending ε α)}
    (leave : ∀ ending ∈ endings, ending.LeavesEnd) : (choice endings).LeavesEnd := by
  induction endings with
  | nil => rintro built input value rest after ⟨⟨⟩, _⟩
  | cons ending others inductionHypothesis =>
      obtain ⟨here, there⟩ := List.forall_mem_cons.mp leave
      rintro built input value rest after (⟨found, -⟩ | ⟨between, -, found⟩)
      · exact here found
      · exact inductionHypothesis there found

theorem leavesEnd_satisfy (test : Char → Bool) :
    (Building.ofParser (Parser.satisfy test : Parser ε Char)).Gives.LeavesEnd := by
  rintro built ⟨chars, remaining, counted⟩ value rest after found
  cases chars with
  | nil => cases found
  | cons char others =>
      simp only [Building.Gives, Building.ofParser, Parser.satisfy, Cursor.next?] at found
      split_ifs at found <;> cases found
      exact List.suffix_cons _ _

theorem leavesEnd_notBefore (test : Char → Bool) (value : α) :
    (Building.ofParser (Parser.notBefore test value : Parser ε α)).Gives.LeavesEnd := by
  rintro built ⟨chars, remaining, counted⟩ value rest after found
  cases chars with
  | nil =>
      cases found
      exact List.suffix_rfl
  | cons char others =>
      simp only [Building.Gives, Building.ofParser, Parser.notBefore, Cursor.next?] at found
      split_ifs at found <;> cases found
      exact List.suffix_rfl

end Ending

namespace Combination

open Ending

mutual

theorem leavesEnd_ends : ∀ combination : Combination ε α, combination.Ends.LeavesEnd
  | .satisfy test build => by
      rw [Ends]
      exact (leavesEnd_satisfy test).map build
  | .map part action => by
      rw [Ends]
      exact (leavesEnd_ends part).andThen (Reply.keepsRest_convert action)
  | .many part collect => by
      rw [Ends]
      exact (leavesEnd_ends part).rounds.map collect
  | .keep part test => by
      rw [Ends]
      refine (leavesEnd_ends part).andThen fun reply value rest found => ?_
      obtain ⟨kept, converted⟩ := Reply.keepsRest_refine id found
      exact Reply.keepsRest_convert (keepWhen test) converted
  | .sequence parts collect => by
      rw [Ends]
      exact (LeavesEnd.sequence (leavesEnd_allEnd parts)).map collect
  | .choice parts => by
      rw [Ends]
      exact LeavesEnd.choice (leavesEnd_allEnd parts)
  | .deferred label part => by
      rw [Ends]
      exact fun _ _ _ _ _ found => leavesEnd_ends part found
  | .lexeme part bounded => by
      rw [Ends]
      refine (leavesEnd_ends part).bind fun value => ?_
      refine (leavesEnd_satisfy Text.isSpace).rounds.bind fun blanks => ?_
      split_ifs
      · exact leavesEnd_notBefore _ value
      · exact leavesEnd_pure value
  | .binaryLeft base operator combine => by
      rw [Ends]
      have tail := (leavesEnd_ends operator).bind fun sign =>
        (leavesEnd_ends base).bind fun right => leavesEnd_pure (sign, right)
      exact (leavesEnd_ends base).bind fun first => tail.rounds.map _
  | .binaryRight base combine => by
      rw [Ends]
      exact (leavesEnd_ends base).rounds.andThen (Reply.keepsRest_refine _)
  | .brackets opening inner closing => by
      rw [Ends]
      exact (leavesEnd_ends opening).bind fun _ => (leavesEnd_ends inner).bind fun value =>
        (leavesEnd_ends closing).bind fun _ => leavesEnd_pure value
  | .atEnd part => by
      rw [Ends]
      exact (leavesEnd_ends part).andThen Reply.keepsRest_atEnd

theorem leavesEnd_allEnd : ∀ combinations : List (Combination ε α),
    ∀ ending ∈ AllEnd combinations, ending.LeavesEnd
  | [] => by simp [AllEnd]
  | part :: rest => by
      rw [AllEnd, List.forall_mem_cons]
      exact ⟨leavesEnd_ends part, leavesEnd_allEnd rest⟩

end

/-- Every application comes to its end, with one reply and one set of labels built, and these are
what the building parser computes. A match splits the text into what it used and what it leaves. -/
theorem application_ends (combination : Combination ε α) (built : List Nat) (input : Cursor) :
    ∃ reply after, combination.building built input = (reply, after) ∧
      (∀ other later, combination.Ends built input other later ↔
        other = reply ∧ later = after) ∧
      ∀ value rest, reply = .matched value rest →
        ∃ used, input.chars = used ++ rest.chars ∧ used.length = input.consumed rest := by
  refine ⟨_, _, rfl, fun other later => ?_, fun value rest same => ?_⟩
  · rw [ends_eq_gives, Building.Gives, Prod.ext_iff]
    exact and_congr eq_comm eq_comm
  · have found : combination.Ends built input (.matched value rest)
        (combination.building built input).2 := by
      rw [ends_eq_gives, ← same]
      rfl
    obtain ⟨used, split⟩ := leavesEnd_ends combination found
    refine ⟨used, split.symm, ?_⟩
    rw [Cursor.consumed, input.counted, rest.counted, ← split, List.length_append]
    omega

/-- A repetition of a repetition ends, although the inner one matches everywhere. -/
example : (many (many (satisfy Char.isAlpha fun _ => 1) List.sum) List.sum :
    Combination Empty Nat).building [] (.ofList ['a', 'b', '1']) =
      (.matched 2 (.ofList ['1']), []) :=
  rfl

end Combination

end Turtle
