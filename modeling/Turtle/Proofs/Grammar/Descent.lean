import Turtle.Proofs.Aborts
import Turtle.Proofs.Grammar.Abort
import Turtle.Proofs.Grammar.Expression

/-
This file follows the descent into nested statements. The rules that lead to an inner statement
consume a token first, so the descent is at most as deep as the text is long, and a depth above the
length of the text makes no difference.
-/

namespace Turtle

open Token

namespace Rule

open Turtle.Parser

variable {α β : Type}

/-- The rule never gives up a text for its nesting. -/
def Spares (rule : Rule α) : Prop :=
  rule.AbortsOnly (· ≠ .nestedTooDeep)

theorem number_spares : Spares number := by
  intro input cause given
  rw [← input.ofList_chars, number_apply] at given
  split at given
  · split at given
    · cases given
      exact nofun
    · cases given
  · cases given

theorem name_guard_spares (test : String → Bool) : Spares (name.guard test) := by
  intro input cause given
  rw [← input.ofList_chars, guard_name_apply] at given
  split at given
  · split at given <;> cases given
  · cases given

theorem variableName_spares : Spares variableName := by
  intro input cause given
  rw [← input.ofList_chars, variableName_apply] at given
  split at given <;> cases given

theorem symbol_spares {char : Char} (member : char ∈ symbols) : Spares (symbol char) := by
  intro input cause given
  rw [← input.ofList_chars, symbol_apply member] at given
  split at given
  · split at given <;> cases given
  · cases given

theorem atom_spares : Spares atom := by
  apply AbortsOnly.choice
  intro rule member
  simp only [List.mem_cons, List.not_mem_nil, or_false] at member
  rcases member with rfl | rfl
  · exact number_spares.map literal
  · exact variableName_spares.map Node.var

theorem expression_spares : Spares expression :=
  (atom_spares.binaryLeft (symbol_spares (by decide)) _).binaryLeft (symbol_spares (by decide)) _

theorem comparison_spares : Spares comparison :=
  expression_spares.bind fun _ => (symbol_spares (by decide)).bind fun _ =>
    expression_spares.bind fun _ => .pure _

/-- On every text shorter than the bound the two rules reply the same, and do not give up the text
for its nesting. -/
def Settled (bound : Nat) (first second : Rule α) : Prop :=
  ∀ input, input.remaining < bound →
    first input = second input ∧ first input ≠ .aborted .nestedTooDeep

theorem Spares.settled {rule : Rule α} (spares : Spares rule) (bound : Nat) :
    Settled bound rule rule :=
  fun input _ => ⟨rfl, fun given => spares input _ given rfl⟩

namespace Settled

variable {bound : Nat} {first second : Rule α}

/-- What comes before the inner rules leaves them a text that is short enough. -/
theorem after {longer : Nat} {rule : Rule β} {next other : β → Rule α} (spares : Spares rule)
    (shortens : ∀ input value rest, input.remaining < longer →
      rule input = .matched value rest → rest.remaining < bound)
    (settled : ∀ value, Settled bound (next value) (other value)) :
    Settled longer (rule >>= next) (rule >>= other) := by
  intro input short
  rw [bind_apply, bind_apply]
  cases reply : rule input with
  | matched value rest => exact settled value rest (shortens input value rest short reply)
  | unmatched => simp
  | aborted cause => simpa using spares input cause reply

theorem andThen {next : α → Rule β} (settled : Settled bound first second)
    (spares : ∀ value, Spares (next value)) : Settled bound (first >>= next) (second >>= next) := by
  intro input short
  obtain ⟨same, kept⟩ := settled input short
  rw [bind_apply, bind_apply, ← same]
  cases reply : first input with
  | matched value rest => exact (spares value).settled _ rest (Nat.lt_succ_self _)
  | unmatched => simp
  | aborted cause => simpa [reply] using kept

theorem refine (settled : Settled bound first second) (view : α → Option β) :
    Settled bound (first.refine view) (second.refine view) := by
  intro input short
  obtain ⟨same, kept⟩ := settled input short
  rw [Parser.refine, Parser.refine, ← same]
  refine ⟨rfl, ?_⟩
  cases reply : first input with
  | matched value rest => cases seen : view value <;> simp [seen]
  | unmatched => simp
  | aborted cause => simpa [reply] using kept

/-- The rounds of a repetition stay below the bound, because each of them shortens the text. -/
theorem many (settled : Settled bound first second) :
    Settled bound (Parser.many first) (Parser.many second) := by
  intro input short
  induction size : input.remaining using Nat.strongRecOn generalizing input with
  | ind length inductionHypothesis =>
      obtain ⟨same, kept⟩ := settled input short
      cases reply : first input with
      | matched value middle =>
          rw [reply] at same
          by_cases consumes : middle.remaining < input.remaining
          · obtain ⟨others, spared⟩ := inductionHypothesis middle.remaining (size ▸ consumes) middle
              (consumes.trans short) rfl
            rw [many_of_matched reply consumes, many_of_matched same.symm consumes, ← others]
            refine ⟨rfl, ?_⟩
            cases more : Parser.many first middle with
            | matched values rest => simp [Reply.map]
            | unmatched => simp [Reply.map]
            | aborted cause => simpa [more, Reply.map] using spared
          · rw [many_of_idle reply consumes, many_of_idle same.symm consumes]
            exact ⟨rfl, by simp⟩
      | unmatched =>
          rw [reply] at same
          rw [many_of_unmatched reply, many_of_unmatched same.symm]
          exact ⟨rfl, by simp⟩
      | aborted cause =>
          rw [reply] at same
          rw [many_of_aborted reply, many_of_aborted same.symm]
          exact ⟨rfl, by simpa [reply] using kept⟩

theorem choice {rules others : List (Rule α)}
    (settled : List.Forall₂ (Settled bound) rules others) :
    Settled bound (Parser.choice rules) (Parser.choice others) := by
  induction settled with
  | nil => exact fun _ _ => ⟨rfl, nofun⟩
  | @cons rule other _ _ head _ inductionHypothesis =>
      intro input short
      obtain ⟨same, kept⟩ := head input short
      simp only [Parser.choice, ← same]
      cases reply : rule input with
      | matched value rest => simp
      | unmatched => exact inductionHypothesis input short
      | aborted cause => simpa [reply] using kept

theorem statementsOf {inner other : Rule Node} (settled : Settled bound inner other) :
    Settled bound (statementsOf inner) (statementsOf other) :=
  settled.many.refine _

end Settled

/-- What a match leaves is no longer than the text. -/
theorem Explained.remaining_le {rule : Rule α} (explained : Explained rule) {input rest : Cursor}
    {value : α} (matched : rule input = .matched value rest) :
    rest.remaining ≤ input.remaining := by
  have left := explained input
  rw [matched] at left
  rw [rest.counted, input.counted]
  exact left.length_le

theorem name_guard_consumes {test : String → Bool} {input rest : Cursor} {word : String}
    (matched : name.guard test input = .matched word rest) : rest.remaining < input.remaining := by
  rw [← input.ofList_chars, guard_name_matched_iff] at matched
  rw [rest.counted, input.counted]
  exact scan_length matched.2

theorem symbol_consumes {sign found : Char} (member : sign ∈ symbols) {input rest : Cursor}
    (matched : (symbol sign : Rule Char) input = .matched found rest) :
    rest.remaining < input.remaining := by
  rw [← input.ofList_chars, symbol_matched_iff member] at matched
  rw [rest.counted, input.counted]
  exact scan_length matched.2

namespace Settled

variable {bound : Nat} {next other : α → Rule β}

/-- A rule in front of the inner rules leaves no more text than there was. -/
theorem behind {rule : Rule α} (spares : Spares rule) (explained : Explained rule)
    (settled : ∀ value, Settled bound (next value) (other value)) :
    Settled bound (rule >>= next) (rule >>= other) := by
  refine after spares (fun input value rest short matched => ?_) settled
  have left := explained.remaining_le matched
  omega

/-- A word in front of the inner rules leaves less text than there was. -/
theorem behindWord {test : String → Bool} {next other : String → Rule β}
    (settled : ∀ word, Settled bound (next word) (other word)) :
    Settled (bound + 1) (name.guard test >>= next) (name.guard test >>= other) := by
  refine after (name_guard_spares test) (fun input word rest short matched => ?_) settled
  have left := name_guard_consumes matched
  omega

end Settled

/-- All alternatives consume a token before they read the statements inside them. -/
theorem alternatives_settled {bound : Nat} {inner other : Rule Node}
    (settled : Settled bound inner other) :
    List.Forall₂ (Settled (bound + 1)) (alternatives inner) (alternatives other) := by
  have command (word : String) (build : Node → Node) :
      Settled (bound + 1) (command word build) (command word build) :=
    Spares.settled ((name_guard_spares _).bind fun _ => expression_spares.bind fun _ => .pure _) _
  have loop : Settled (bound + 1) (loop inner) (loop other) :=
    .behindWord fun _ => .behind expression_spares expression_explained fun _ =>
      settled.andThen fun _ => .pure _
  have definition : Settled (bound + 1) (definition inner) (definition other) :=
    .behindWord fun _ => .behind (name_guard_spares _) (name_guard_explained _) fun _ =>
      .behind variableName_spares.many variableName_explained.many fun _ =>
        settled.statementsOf.andThen fun _ => (name_guard_spares _).bind fun _ => .pure _
  have branch : Settled (bound + 1) (branch inner) (branch other) :=
    .behindWord fun _ => .behind comparison_spares comparison_explained fun _ =>
      settled.andThen fun _ => .pure _
  have stop : Settled (bound + 1) stop stop :=
    Spares.settled ((name_guard_spares _).bind fun _ => .pure _) _
  have call : Settled (bound + 1) call call :=
    Spares.settled ((name_guard_spares _).bind fun _ => expression_spares.many.bind fun _ =>
      .pure _) _
  have block : Settled (bound + 1) (block inner) (block other) := by
    refine .after (symbol_spares (by decide)) (fun input _ rest short matched => ?_) fun _ =>
      settled.statementsOf.andThen fun _ => (symbol_spares (by decide)).bind fun _ => .pure _
    have left := symbol_consumes (by decide) matched
    omega
  exact .cons (command _ _) (.cons (command _ _) (.cons (command _ _) (.cons loop
    (.cons definition (.cons branch (.cons stop (.cons call (.cons block .nil))))))))

/-- A text shorter than the depth is read to the same end with every greater depth, and is never
given up for its nesting. -/
theorem statement_settled {depth more : Nat} (deeper : depth ≤ more) :
    Settled depth (statement depth) (statement more) := by
  induction depth generalizing more with
  | zero => exact fun input short => absurd short (Nat.not_lt_zero _)
  | succ depth inductionHypothesis =>
      obtain ⟨more, rfl⟩ := Nat.exists_eq_add_of_lt deeper
      exact .choice (alternatives_settled (inductionHypothesis (Nat.le_add_right depth more)))

end Rule

end Turtle
