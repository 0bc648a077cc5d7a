import Turtle.Proofs.Aborts

/-
This file gives the two folds of a parser their recursive meaning. The left fold carries a value
from operand to operand and goes back over a sign without an operand. The right fold nests the
longest run of items that consume something.
-/

namespace Turtle.Parser

variable {ε α β : Type}

def Matches (parser : Parser ε α) (input : Cursor) : Prop :=
  ∃ value rest, parser input = .matched value rest

/-- The match leaves less text than there was. -/
def MatchesConsuming (parser : Parser ε α) (input : Cursor) : Prop :=
  ∃ value rest, parser input = .matched value rest ∧ rest.remaining < input.remaining

/-- With a left value at hand, an operator and an operand behind it are tried. If both match and
consume something together, this goes on behind them with the combined value. Otherwise it stops
before the operator. -/
def foldFrom (base : Parser ε α) (operator : Parser ε β) (combine : β → α → α → α) (left : α) :
    Parser ε α := fun input =>
  match operator input with
  | .matched sign middle =>
      match base middle with
      | .matched right rest =>
          if rest.remaining < input.remaining then
            foldFrom base operator combine (combine sign left right) rest
          else .matched left input
      | .unmatched => .matched left input
      | .aborted cause => .aborted cause
  | .unmatched => .matched left input
  | .aborted cause => .aborted cause
termination_by input => input.remaining

/-- An operator and an operand are one round of a left fold. -/
def operation (base : Parser ε α) (operator : Parser ε β) : Parser ε (β × α) := do
  let sign ← operator
  let right ← base
  return (sign, right)

section LeftFold

variable (base : Parser ε α) (operator : Parser ε β) (combine : β → α → α → α)

theorem operation_of_matched {input middle : Cursor} {sign : β}
    (signed : operator input = .matched sign middle) :
    operation base operator input = (base middle).map (sign, ·) := by
  rw [operation, bind_of_matched _ signed, ← map_apply]
  rfl

/-- To collect all rounds first and fold their values afterwards is to fold on the way. -/
theorem many_operation_foldl (left : α) (input : Cursor) :
    (many (operation base operator) input).map
        (List.foldl (fun left tail => combine tail.1 left tail.2) left) =
      foldFrom base operator combine left input := by
  fun_induction foldFrom base operator combine left input with
  | case1 left input sign middle signed right rest operand consumes inductionHypothesis =>
      have found := operation_of_matched base operator signed
      rw [operand] at found
      rw [many_of_matched found consumes, ← inductionHypothesis]
      cases many (operation base operator) rest <;> rfl
  | case2 left input sign middle signed right rest operand idle =>
      have found := operation_of_matched base operator signed
      rw [operand] at found
      rw [many_of_idle found idle]
      rfl
  | case3 left input sign middle signed missing =>
      have found := operation_of_matched base operator signed
      rw [missing] at found
      rw [many_of_unmatched found]
      rfl
  | case4 left input sign middle signed cause given =>
      have found := operation_of_matched base operator signed
      rw [given] at found
      rw [many_of_aborted found]
      rfl
  | case5 left input missing =>
      have missing : operation base operator input = .unmatched := bind_of_unmatched _ missing
      rw [many_of_unmatched missing]
      rfl
  | case6 left input cause given =>
      have given : operation base operator input = .aborted cause := by
        rw [operation, bind_apply, given]
      rw [many_of_aborted given]
      rfl

theorem binaryLeft_eq_foldFrom :
    binaryLeft base operator combine = base >>= foldFrom base operator combine := by
  funext input
  rw [binaryLeft, bind_apply, bind_apply]
  cases base input with
  | matched first rest =>
      dsimp only
      rw [← many_operation_foldl, ← map_apply]
      rfl
  | unmatched => rfl
  | aborted cause => rfl

variable {base operator}

theorem binaryLeft_matches_iff (settled : NeverAborts base) (signs : NeverAborts operator)
    (input : Cursor) : Matches (binaryLeft base operator combine) input ↔ Matches base input := by
  rw [Matches, binaryLeft_eq_foldFrom]
  constructor
  · rintro ⟨value, rest, found⟩
    obtain ⟨first, middle, start, -⟩ := bind_matched_iff.mp found
    exact ⟨first, middle, start⟩
  · rintro ⟨first, middle, start⟩
    have rounds : NeverAborts (operation base operator) :=
      signs.bind fun sign => settled.bind fun right => .pure (sign, right)
    obtain ⟨tails, rest, run⟩ := rounds.exists_repeats middle
    rw [bind_of_matched _ start, ← many_operation_foldl, run.many_eq]
    exact ⟨_, rest, rfl⟩

end LeftFold

section RightFold

variable {base : Parser ε α} (combine : α → α → α)

theorem foldRight?_append_singleton (values : List α) (last : α) :
    foldRight? combine (values ++ [last]) = some (values.foldr combine last) := by
  induction values with
  | nil => rfl
  | cons value rest inductionHypothesis =>
      have longer : rest ++ [last] ≠ [] :=
        List.append_ne_nil_of_right_ne_nil rest (List.cons_ne_nil last [])
      obtain ⟨next, others, begins⟩ := List.exists_cons_of_ne_nil longer
      rw [begins] at inductionHypothesis
      rw [List.cons_append, begins, foldRight?, inductionHypothesis]
      · rfl
      · exact List.cons_ne_nil next others

/-- The right fold nests the values of the longest run, and stops behind the last of them. -/
theorem binaryRight_matched_iff {input rest : Cursor} {value : α} :
    binaryRight base combine input = .matched value rest ↔
      ∃ values last, Repeats base input (values ++ [last]) rest ∧
        value = values.foldr combine last := by
  constructor
  · intro found
    rw [binaryRight, refine] at found
    cases run : many base input with
    | matched values middle =>
        rcases List.eq_nil_or_concat values with rfl | ⟨others, last, rfl⟩
        · simp [run, foldRight?] at found
        · rw [List.concat_eq_append] at run
          simp only [run, foldRight?_append_singleton, Reply.matched.injEq] at found
          obtain ⟨rfl, rfl⟩ := found
          exact ⟨others, last, repeats_of_many run, rfl⟩
    | unmatched => simp [run] at found
    | aborted cause => simp [run] at found
  · rintro ⟨values, last, run, rfl⟩
    rw [binaryRight, refine, run.many_eq]
    simp only [foldRight?_append_singleton]

theorem binaryRight_matches_iff (settled : NeverAborts base) (input : Cursor) :
    Matches (binaryRight base combine) input ↔ MatchesConsuming base input := by
  constructor
  · rintro ⟨value, rest, found⟩
    obtain ⟨values, last, run, -⟩ := (binaryRight_matched_iff combine).mp found
    generalize all : values ++ [last] = items at run
    cases run with
    | done missing | idle found idle => simp at all
    | step found consumes more => exact ⟨_, _, found, consumes⟩
  · rintro ⟨first, middle, found, consumes⟩
    obtain ⟨values, rest, more⟩ := settled.exists_repeats middle
    have run : Repeats base input (first :: values) rest := .step found consumes more
    obtain ⟨others, last, all⟩ :=
      (List.eq_nil_or_concat (first :: values)).resolve_left (List.cons_ne_nil first values)
    rw [all, List.concat_eq_append] at run
    exact ⟨_, rest, (binaryRight_matched_iff combine).mpr ⟨others, last, run, rfl⟩⟩

end RightFold

/-- The folds meet their recursive reference. A left fold is its first operand followed by
`foldFrom`, and it matches wherever its operand does. A right fold nests the values of the longest
run of items that consume something, leaves what is behind the last of them, and matches wherever
its item matches and consumes something. No parser is excluded: an item may match without consuming,
and an operand may be missing behind an operator. -/
theorem folds_meet_reference (base : Parser ε α) (operator : Parser ε β) :
    (∀ combine input, binaryLeft base operator combine input =
      (base >>= foldFrom base operator combine) input) ∧
    (∀ combine input value rest, binaryRight base combine input = .matched value rest ↔
      ∃ values last, Repeats base input (values ++ [last]) rest ∧
        value = values.foldr combine last) ∧
    (NeverAborts base →
      (NeverAborts operator → ∀ combine input,
        Matches (binaryLeft base operator combine) input ↔ Matches base input) ∧
      ∀ combine input,
        Matches (binaryRight base combine) input ↔ MatchesConsuming base input) := by
  refine ⟨fun combine input => ?_, fun combine input value rest => ?_, fun settled => ⟨?_, ?_⟩⟩
  · rw [binaryLeft_eq_foldFrom]
  · exact binaryRight_matched_iff combine
  · exact fun signs combine input => binaryLeft_matches_iff combine settled signs input
  · exact fun combine input => binaryRight_matches_iff combine settled input

/-- Letters joined by signs, with a last sign that has no letter behind it: the left fold leaves
this sign to be read again. The right fold of the letters alone stops before the first sign. -/
theorem folds_meet_reference_danglingSign :
    let letter : Parser Unit (List Char) := (fun char => [char]) <$> satisfy Text.isAsciiLetter
    let sign : Parser Unit Char := satisfy (· == '-')
    NeverAborts letter ∧ NeverAborts sign ∧
      (letter >>= foldFrom letter sign fun sign left right => '(' :: left ++ sign :: right ++ [')'])
          (.ofList "a-b-c-".toList) =
        .matched "((a-b)-c)".toList (.ofList "-".toList) ∧
      Matches (binaryLeft letter sign fun _ left _ => left) (.ofList "a--".toList) ∧
      Matches (binaryRight letter (· ++ ·)) (.ofList "ab-c".toList) := by
  intro letter sign
  have letters : NeverAborts letter :=
    (AbortsOnly.satisfy _).map fun char => [char]
  have signs : NeverAborts sign := .satisfy _
  obtain ⟨left, -, iff⟩ := folds_meet_reference letter sign
  obtain ⟨leftMatches, rightMatches⟩ := iff letters
  refine ⟨letters, signs, ?_, ?_, ?_⟩
  · rw [← left]
    rfl
  · exact (leftMatches signs _ _).mpr ⟨['a'], .ofList "--".toList, rfl⟩
  · exact (rightMatches _ _).mpr ⟨['a'], .ofList "b-c".toList, rfl, by decide⟩

end Turtle.Parser
