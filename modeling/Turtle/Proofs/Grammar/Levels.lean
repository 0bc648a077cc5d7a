import Turtle.Proofs.Grammar.Descent
import Turtle.Proofs.Grammar.Location

/-
This file shows that the levels of nesting only cut a reading off. What is read within some levels,
or refused for another reason than its nesting, is read or refused in the same way within more.
-/

namespace Turtle

namespace Rule

open Turtle.Parser

variable {α β : Type}

/-- The second rule replies as the first does, unless the first gives up the text for its
nesting. -/
def Widens (first second : Rule α) : Prop :=
  ∀ input, first input ≠ .aborted .nestedTooDeep → second input = first input

namespace Widens

variable {first second : Rule α}

theorem refl (rule : Rule α) : Widens rule rule :=
  fun _ _ => rfl

theorem bind {next other : α → Rule β} (widens : Widens first second)
    (after : ∀ value, Widens (next value) (other value)) :
    Widens (first >>= next) (second >>= other) := by
  intro input kept
  rw [bind_apply] at kept
  have same : second input = first input := widens input fun given => by simp [given] at kept
  rw [bind_apply, bind_apply, same]
  cases reply : first input with
  | matched value rest =>
      rw [reply] at kept
      exact after value rest kept
  | unmatched => rfl
  | aborted cause => rfl

theorem refine (widens : Widens first second) (view : α → Option β) :
    Widens (first.refine view) (second.refine view) := by
  intro input kept
  rw [Parser.refine] at kept
  have same : second input = first input := widens input fun given => by simp [given] at kept
  rw [Parser.refine, Parser.refine, same]

/-- Each round of a repetition is the same, and so is what the next rounds start from. -/
theorem many (widens : Widens first second) :
    Widens (Parser.many first) (Parser.many second) := by
  intro input kept
  induction size : input.remaining using Nat.strongRecOn generalizing input with
  | ind length inductionHypothesis =>
      have same : second input = first input :=
        widens input fun given => kept (many_of_aborted given)
      cases reply : first input with
      | matched value middle =>
          rw [reply] at same
          by_cases consumes : middle.remaining < input.remaining
          · rw [many_of_matched reply consumes] at kept ⊢
            have others := inductionHypothesis middle.remaining (size ▸ consumes) middle
              (fun given => kept (by rw [given]; rfl)) rfl
            rw [many_of_matched same consumes, others]
          · rw [many_of_idle reply consumes, many_of_idle same consumes]
      | unmatched =>
          rw [reply] at same
          rw [many_of_unmatched reply, many_of_unmatched same]
      | aborted cause =>
          rw [reply] at same
          rw [many_of_aborted reply, many_of_aborted same]

theorem choice {rules others : List (Rule α)} (widens : List.Forall₂ Widens rules others) :
    Widens (Parser.choice rules) (Parser.choice others) := by
  induction widens with
  | nil => exact refl _
  | @cons rule other _ _ head _ inductionHypothesis =>
      intro input kept
      simp only [Parser.choice] at kept
      have same : other input = rule input := head input fun given => by simp [given] at kept
      simp only [Parser.choice, same]
      cases reply : rule input with
      | matched value rest => rfl
      | unmatched =>
          rw [reply] at kept
          exact inductionHypothesis input kept
      | aborted cause => rfl

theorem statementsOf {inner other : Rule Node} (widens : Widens inner other) :
    Widens (statementsOf inner) (statementsOf other) :=
  widens.many.refine _

end Widens

theorem alternatives_widens {inner other : Rule Node} (widens : Widens inner other) :
    List.Forall₂ Widens (alternatives inner) (alternatives other) := by
  have loop : Widens (loop inner) (loop other) :=
    .bind (.refl _) fun _ => .bind (.refl _) fun _ => .bind widens fun _ => .refl _
  have definition : Widens (definition inner) (definition other) :=
    .bind (.refl _) fun _ => .bind (.refl _) fun _ => .bind (.refl _) fun _ =>
      .bind widens.statementsOf fun _ => .refl _
  have branch : Widens (branch inner) (branch other) :=
    .bind (.refl _) fun _ => .bind (.refl _) fun _ => .bind widens fun _ => .refl _
  have block : Widens (block inner) (block other) :=
    .bind (.refl _) fun _ => .bind widens.statementsOf fun _ => .refl _
  exact .cons (.refl _) (.cons (.refl _) (.cons (.refl _) (.cons loop (.cons definition
    (.cons branch (.cons (.refl _) (.cons (.refl _) (.cons block .nil))))))))

theorem statement_widens {levels more : Nat} (deeper : levels ≤ more) :
    Widens (statement levels) (statement more) := by
  induction levels generalizing more with
  | zero => exact fun input kept => absurd rfl kept
  | succ levels inductionHypothesis =>
      obtain ⟨more, rfl⟩ := Nat.exists_eq_add_of_lt deeper
      exact .choice (alternatives_widens (inductionHypothesis (Nat.le_add_right levels more)))

theorem statementRun_widens {levels more : Nat} (deeper : levels ≤ more) :
    Widens (statementRun levels) (statementRun more) :=
  .bind (.refl _) fun _ => (statement_widens deeper).many

end Rule

namespace Program

/-- A text that is not given up for its nesting has the same reading within more levels. -/
theorem read_widens {levels more : Nat} (deeper : levels ≤ more) {text filename : String}
    (kept : read levels text filename ≠ .error (nestingError text.toList filename)) :
    read more text filename = read levels text filename := by
  have spared : Rule.statementRun levels (.ofList text.toList) ≠ .aborted .nestedTooDeep := by
    intro given
    apply kept
    rw [read, readChars, Rule.program_apply, given]
    rfl
  have same := Rule.statementRun_widens deeper _ spared
  have found : Rule.program more (.ofList text.toList) =
      Rule.program levels (.ofList text.toList) := by
    rw [Rule.program_apply, Rule.program_apply, same]
  have located : Rule.errorLocation more (.ofList text.toList) =
      Rule.errorLocation levels (.ofList text.toList) := by
    rw [Rule.errorLocation, Rule.errorLocation, same]
  simp only [read, readChars, found, rejection, located]

theorem read_of_deeper {levels more : Nat} (deeper : levels ≤ more) {text filename : String}
    {node : Node} (found : read levels text filename = .ok node) :
    read more text filename = .ok node := by
  have kept : read levels text filename ≠ .error (nestingError text.toList filename) := by
    rw [found]
    rintro ⟨⟩
  exact (read_widens deeper kept).trans found

/-- A program is read within other levels too, unless these are fewer and it is given up for its
nesting. -/
theorem read_cases {levels : Nat} {text filename : String} {node : Node}
    (found : read levels text filename = .ok node) (other : Nat) :
    read other text filename = .ok node ∨
      other < levels ∧
        read other text filename = .error (nestingError text.toList filename) := by
  rcases Nat.lt_or_ge other levels with fewer | enough
  · by_cases cut : read other text filename = .error (nestingError text.toList filename)
    · exact .inr ⟨fewer, cut⟩
    · exact .inl ((read_widens fewer.le cut).symm.trans found)
  · exact .inl (read_of_deeper enough found)

end Program

end Turtle
