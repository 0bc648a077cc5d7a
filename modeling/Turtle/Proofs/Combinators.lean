import Turtle.Parser

namespace Turtle

/-- A cursor is determined by its characters. -/
theorem Cursor.ofList_chars (cursor : Cursor) : Cursor.ofList cursor.chars = cursor := by
  rcases cursor with ⟨chars, remaining, counted⟩
  subst counted
  rfl

@[simp] theorem Cursor.chars_ofList (chars : List Char) : (Cursor.ofList chars).chars = chars := rfl

@[simp] theorem Cursor.remaining_ofList (chars : List Char) :
    (Cursor.ofList chars).remaining = chars.length := rfl

@[simp] theorem Cursor.next?_ofList_nil : (Cursor.ofList []).next? = none := rfl

@[simp] theorem Cursor.next?_ofList_cons (char : Char) (rest : List Char) :
    (Cursor.ofList (char :: rest)).next? = some (char, Cursor.ofList rest) := rfl

/-- The value of a match is replaced, and any other reply stays. -/
def Reply.map {ε α β : Type} (f : α → β) : Reply ε α → Reply ε β
  | .matched value rest => .matched (f value) rest
  | .unmatched => .unmatched
  | .aborted cause => .aborted cause

namespace Parser

variable {ε α β : Type}

@[simp] theorem pure_apply (value : α) (input : Cursor) :
    (pure value : Parser ε α) input = .matched value input := rfl

theorem bind_apply (parser : Parser ε α) (next : α → Parser ε β) (input : Cursor) :
    (parser >>= next) input = match parser input with
      | .matched value rest => next value rest
      | .unmatched => .unmatched
      | .aborted cause => .aborted cause := rfl

/-- A sequence of two parsers matches through a value and a place between them. -/
theorem bind_matched_iff {parser : Parser ε α} {next : α → Parser ε β} {input rest : Cursor}
    {value : β} :
    (parser >>= next) input = .matched value rest ↔
      ∃ first middle, parser input = .matched first middle ∧
        next first middle = .matched value rest := by
  rw [bind_apply]
  cases reply : parser input with
  | matched first middle =>
      constructor
      · intro found
        exact ⟨first, middle, rfl, found⟩
      · rintro ⟨_, _, same, found⟩
        cases same
        exact found
  | unmatched => simp
  | aborted cause => simp

theorem bind_of_matched {parser : Parser ε α} {input middle : Cursor} {first : α}
    (next : α → Parser ε β) (found : parser input = .matched first middle) :
    (parser >>= next) input = next first middle := by
  rw [bind_apply, found]

theorem bind_of_unmatched {parser : Parser ε α} {input : Cursor} (next : α → Parser ε β)
    (missing : parser input = .unmatched) : (parser >>= next) input = .unmatched := by
  rw [bind_apply, missing]

theorem map_apply (f : α → β) (parser : Parser ε α) (input : Cursor) :
    (f <$> parser) input = (parser input).map f := by
  change (parser >>= fun value => pure (f value)) input = _
  rw [bind_apply]
  cases parser input <;> rfl

/-- An alternative that matches is one of those tried. -/
theorem choice_matched {parsers : List (Parser ε α)} {input rest : Cursor} {value : α}
    (found : choice parsers input = .matched value rest) :
    ∃ parser ∈ parsers, parser input = .matched value rest := by
  induction parsers with
  | nil => simp [choice] at found
  | cons parser parsers inductionHypothesis =>
      cases reply : parser input with
      | matched first middle =>
          simp only [choice, reply] at found
          exact ⟨parser, by simp, reply.trans found⟩
      | unmatched =>
          simp only [choice, reply] at found
          obtain ⟨other, member, matched⟩ := inductionHypothesis found
          exact ⟨other, by simp [member], matched⟩
      | aborted cause => simp [choice, reply] at found

theorem choice_unmatched {parsers : List (Parser ε α)} {input : Cursor}
    (missing : ∀ parser ∈ parsers, parser input = .unmatched) :
    choice parsers input = .unmatched := by
  induction parsers with
  | nil => rfl
  | cons parser parsers inductionHypothesis =>
      obtain ⟨here, there⟩ := List.forall_mem_cons.mp missing
      simp only [choice, here]
      exact inductionHypothesis there

/-- Where no two alternatives apply, the order of the alternatives does not matter. -/
theorem choice_of_exclusive {parsers : List (Parser ε α)} {parser : Parser ε α} {input : Cursor}
    (exclusive : parsers.Pairwise fun first second =>
      first input = .unmatched ∨ second input = .unmatched)
    (member : parser ∈ parsers) (applies : parser input ≠ .unmatched) :
    choice parsers input = parser input := by
  induction parsers with
  | nil => simp at member
  | cons head tail inductionHypothesis =>
      obtain ⟨headExclusive, tailExclusive⟩ := List.pairwise_cons.mp exclusive
      rcases List.mem_cons.mp member with rfl | inTail
      · cases reply : parser input with
        | matched value rest => simp [choice, reply]
        | unmatched => exact absurd reply applies
        | aborted cause => simp [choice, reply]
      · have headUnmatched : head input = .unmatched :=
          (headExclusive parser inTail).resolve_right applies
        simp only [choice, headUnmatched]
        exact inductionHypothesis tailExclusive inTail

/-- The values found so far stand in front of those found later. -/
theorem manyWithin_found (parser : Parser ε α) (budget : Nat) (found : List α) (input : Cursor) :
    manyWithin parser budget found input =
      (manyWithin parser budget [] input).map (found.reverse ++ ·) := by
  induction budget generalizing found input with
  | zero => simp [manyWithin, Reply.map]
  | succ budget inductionHypothesis =>
      simp only [manyWithin]
      cases parser input with
      | matched value rest =>
          by_cases consumes : rest.remaining < input.remaining
          · simp only [consumes, if_true]
            rw [inductionHypothesis (value :: found), inductionHypothesis [value]]
            cases manyWithin parser budget [] rest <;> simp [Reply.map]
          · simp [consumes, Reply.map]
      | unmatched => simp [Reply.map]
      | aborted cause => simp [Reply.map]

/-- Every budget above the length of the text gives the same reply. -/
theorem manyWithin_budget (parser : Parser ε α) {first second : Nat} (found : List α)
    {input : Cursor} (enough : input.remaining < first) (alsoEnough : input.remaining < second) :
    manyWithin parser first found input = manyWithin parser second found input := by
  induction first generalizing second found input with
  | zero => omega
  | succ first inductionHypothesis =>
      obtain ⟨second, rfl⟩ : ∃ smaller, second = smaller + 1 := ⟨second - 1, by omega⟩
      simp only [manyWithin]
      cases parser input with
      | matched value rest =>
          by_cases consumes : rest.remaining < input.remaining
          · simp only [consumes, if_true]
            exact inductionHypothesis (value :: found) (by omega) (by omega)
          · simp [consumes]
      | unmatched => rfl
      | aborted cause => rfl

/-- A repetition goes on behind a match that consumes something. -/
theorem many_of_matched {parser : Parser ε α} {input rest : Cursor} {value : α}
    (found : parser input = .matched value rest) (consumes : rest.remaining < input.remaining) :
    many parser input = (many parser rest).map (value :: ·) := by
  have start : many parser input = manyWithin parser input.remaining [value] rest := by
    simp [many, manyWithin, found, consumes]
  rw [start, manyWithin_budget parser [value] consumes (Nat.lt_succ_self rest.remaining),
    manyWithin_found]
  rfl

theorem many_of_unmatched {parser : Parser ε α} {input : Cursor}
    (missing : parser input = .unmatched) : many parser input = .matched [] input := by
  simp [many, manyWithin, missing]

/-- A repetition matches wherever it does not give up the text. -/
theorem manyWithin_ne_unmatched (parser : Parser ε α) (budget : Nat) (found : List α)
    (input : Cursor) : manyWithin parser budget found input ≠ .unmatched := by
  induction budget generalizing found input with
  | zero => simp [manyWithin]
  | succ budget inductionHypothesis =>
      simp only [manyWithin]
      cases parser input with
      | matched value rest =>
          by_cases consumes : rest.remaining < input.remaining
          · simp only [consumes, if_true]
            exact inductionHypothesis (value :: found) rest
          · simp [consumes]
      | unmatched => simp
      | aborted cause => simp

/-- The chain of matches that a repetition runs through ends where the parser does not match or
consumes nothing. -/
inductive Repeats (parser : Parser ε α) : Cursor → List α → Cursor → Prop where
  | done {input : Cursor} (missing : parser input = .unmatched) : Repeats parser input [] input
  | idle {input rest : Cursor} {value : α} (found : parser input = .matched value rest)
      (idle : ¬rest.remaining < input.remaining) : Repeats parser input [] input
  | step {input middle rest : Cursor} {value : α} {values : List α}
      (found : parser input = .matched value middle)
      (consumes : middle.remaining < input.remaining) (more : Repeats parser middle values rest) :
      Repeats parser input (value :: values) rest

theorem Repeats.many_eq {parser : Parser ε α} {input rest : Cursor} {values : List α}
    (repeats : Repeats parser input values rest) :
    many parser input = .matched values rest := by
  induction repeats with
  | done missing => exact many_of_unmatched missing
  | idle found idle => simp [many, manyWithin, found, idle]
  | step found consumes _ inductionHypothesis =>
      rw [many_of_matched found consumes, inductionHypothesis]
      rfl

theorem repeats_of_many {parser : Parser ε α} {input rest : Cursor} {values : List α}
    (found : many parser input = .matched values rest) : Repeats parser input values rest := by
  -- The induction is on the length of the text, which every round shortens.
  induction size : input.remaining using Nat.strongRecOn
    generalizing input values with
  | ind length inductionHypothesis =>
      cases reply : parser input with
      | matched value middle =>
          by_cases consumes : middle.remaining < input.remaining
          · rw [many_of_matched reply consumes] at found
            cases more : many parser middle with
            | matched others last =>
                simp only [more, Reply.map, Reply.matched.injEq] at found
                obtain ⟨rfl, rfl⟩ := found
                exact .step reply consumes
                  (inductionHypothesis middle.remaining (size ▸ consumes) more rfl)
            | unmatched => simp [more, Reply.map] at found
            | aborted cause => simp [more, Reply.map] at found
          · simp only [many, manyWithin, reply, consumes, if_false, List.reverse_nil,
              Reply.matched.injEq] at found
            obtain ⟨rfl, rfl⟩ := found
            exact .idle reply consumes
      | unmatched =>
          rw [many_of_unmatched reply] at found
          simp only [Reply.matched.injEq] at found
          obtain ⟨rfl, rfl⟩ := found
          exact .done reply
      | aborted cause => simp [many, manyWithin, reply] at found

/-- The repetition of a character test takes the longest run of characters that pass it. -/
theorem many_satisfy (test : Char → Bool) (chars : List Char) :
    many (satisfy test : Parser ε Char) (.ofList chars) =
      .matched (chars.takeWhile test) (.ofList (chars.dropWhile test)) := by
  induction chars with
  | nil => exact many_of_unmatched rfl
  | cons char rest inductionHypothesis =>
      by_cases passes : test char
      · have found : (satisfy test : Parser ε Char) (.ofList (char :: rest)) =
            .matched char (.ofList rest) := by
          simp [satisfy, passes]
        rw [many_of_matched found (by simp), inductionHypothesis]
        simp [Reply.map, passes]
      · have missing : (satisfy test : Parser ε Char) (.ofList (char :: rest)) = .unmatched := by
          simp [satisfy, passes]
        rw [many_of_unmatched missing]
        simp [passes]

end Parser

end Turtle
