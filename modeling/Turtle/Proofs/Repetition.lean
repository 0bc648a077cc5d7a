import Turtle.Evaluation
import Turtle.Proofs.Fallible
import Mathlib.Algebra.Order.Floor.Div
import Mathlib.Tactic.Common

/-
This file counts the rounds of a repetition. They are as many as there are natural numbers below the
count, the limit that the count was compared with bounds them, and a count within a limit is within
all wider ones.
-/

namespace Turtle

theorem Binary.countBelow_le {value : Binary} {bound : Int}
    (within : value.compareInt? bound ≠ some .gt) : value.countBelow ≤ bound.toNat := by
  match value with
  | .finite true mantissa exponent | .infinite true | .undefined => exact Nat.zero_le _
  | .infinite false => exact absurd rfl within
  | .finite false mantissa exponent =>
      simp only [compareInt?, Bool.false_eq_true, if_false, ne_eq, Option.some.injEq] at within
      by_cases natural : 0 ≤ exponent
      · rw [if_pos natural, compare_gt_iff_gt, not_lt] at within
        rw [countBelow, if_pos natural]
        have scaled : ((mantissa * twoTo exponent.toNat : Nat) : Int) ≤ bound := by
          rwa [Nat.cast_mul]
        omega
      · rw [if_neg natural, compare_gt_iff_gt, not_lt] at within
        rw [countBelow, if_neg natural]
        have positive : 0 < twoTo (-exponent).toNat := Nat.two_pow_pos _
        have nonnegative : 0 ≤ bound := by
          by_contra negative
          have product : bound * (twoTo (-exponent).toNat : Nat) < 0 :=
            Int.mul_neg_of_neg_of_pos (by omega) (by exact_mod_cast positive)
          omega
        obtain ⟨natural, rfl⟩ := Int.eq_ofNat_of_zero_le nonnegative
        rw [← Nat.ceilDiv_eq_add_pred_div, ceilDiv_le_iff_le_mul positive, mul_comm]
        exact_mod_cast within

theorem Number.countBelow_le {value : Number} {bound : Int}
    (within : value.exceeds bound = false) : value.countBelow ≤ bound.toNat := by
  match value with
  | .real double => exact Binary.countBelow_le (by simpa [exceeds] using within)
  | .whole value =>
      have most : value ≤ bound := by simpa [exceeds, whole?] using within
      exact Int.toNat_le_toNat most
  | .truth value =>
      have most : ofTruth value ≤ bound := by simpa [exceeds, whole?] using within
      exact Int.toNat_le_toNat most
  | .blank => exact Nat.zero_le _

/-- A natural number below a double is below the count, unless the double has no bound. -/
theorem Binary.lt_countBelow {value : Binary} {bound : Int}
    (within : value.compareInt? bound ≠ some .gt) {index : Nat}
    (above : value.compareInt? index = some .gt) : index < value.countBelow := by
  match value with
  | .infinite false => exact absurd rfl within
  | .infinite true | .undefined => cases above
  | .finite true mantissa exponent =>
      simp only [compareInt?, if_true, Option.some.injEq] at above
      have scaled : (0 : Int) ≤ mantissa * (twoTo exponent.toNat : Nat) :=
        Int.mul_nonneg (Int.natCast_nonneg _) (Int.natCast_nonneg _)
      have raised : (0 : Int) ≤ index * (twoTo (-exponent).toNat : Nat) :=
        Int.mul_nonneg (Int.natCast_nonneg _) (Int.natCast_nonneg _)
      split at above
      · rw [compare_gt_iff_gt, Int.neg_mul] at above
        omega
      · rw [compare_gt_iff_gt] at above
        omega
  | .finite false mantissa exponent =>
      simp only [compareInt?, Bool.false_eq_true, if_false, Option.some.injEq] at above
      by_cases natural : 0 ≤ exponent
      · rw [if_pos natural, compare_gt_iff_gt] at above
        rw [countBelow, if_pos natural]
        exact_mod_cast above
      · rw [if_neg natural, compare_gt_iff_gt] at above
        have positive : 0 < twoTo (-exponent).toNat := Nat.two_pow_pos _
        rw [countBelow, if_neg natural, ← Nat.ceilDiv_eq_add_pred_div, ← not_le,
          ceilDiv_le_iff_le_mul positive, not_le, mul_comm]
        exact_mod_cast above

/-- The count of a bounded number is the number of the naturals below it. -/
theorem Number.lt_countBelow_iff {value : Number} {bound : Int}
    (within : value.exceeds bound = false) (index : Nat) :
    index < value.countBelow ↔ value.exceeds index = true := by
  constructor
  · intro below
    by_contra above
    have most := Number.countBelow_le (Bool.eq_false_iff.mpr above)
    rw [Int.toNat_natCast] at most
    omega
  · intro above
    match value with
    | .real double =>
        simp only [exceeds, beq_iff_eq] at above
        exact Binary.lt_countBelow (by simpa [exceeds] using within) above
    | .whole value =>
        simp only [exceeds, whole?, Option.any_some, decide_eq_true_eq] at above
        simp only [countBelow, whole?, Option.getD_some]
        omega
    | .truth value =>
        simp only [exceeds, whole?, Option.any_some, decide_eq_true_eq] at above
        simp only [countBelow, whole?, Option.getD_some]
        omega
    | .blank => cases above

/-- A double above a whole number is above all smaller ones. -/
theorem Binary.compareInt?_gt_mono {value : Binary} {narrow wide : Int} (le : narrow ≤ wide)
    (above : value.compareInt? wide = some .gt) : value.compareInt? narrow = some .gt := by
  cases value with
  | finite negative mantissa exponent =>
      simp only [compareInt?, Option.some.injEq] at above ⊢
      split
      · next natural =>
          rw [if_pos natural, compare_gt_iff_gt] at above
          rw [compare_gt_iff_gt]
          omega
      · next fractional =>
          rw [if_neg fractional, compare_gt_iff_gt] at above
          rw [compare_gt_iff_gt]
          exact lt_of_le_of_lt (Int.mul_le_mul_of_nonneg_right le (Int.natCast_nonneg _)) above
  | infinite negative => exact above
  | undefined => cases above

theorem Number.exceeds_mono {value : Number} {narrow wide : Int} (le : narrow ≤ wide)
    (above : value.exceeds wide = true) : value.exceeds narrow = true := by
  match value with
  | .real double =>
      simp only [exceeds, beq_iff_eq] at above ⊢
      exact Binary.compareInt?_gt_mono le above
  | .whole value =>
      simp only [exceeds, whole?, Option.any_some, decide_eq_true_eq] at above ⊢
      omega
  | .truth value =>
      simp only [exceeds, whole?, Option.any_some, decide_eq_true_eq] at above ⊢
      omega
  | .blank => cases above

/-- A limited repetition has no more rounds than its limit admits. -/
theorem repeatCount_le {limits : Limits} {most : Int} {value : Number} {node : Node} {count : Nat}
    (limited : limits.maxRepeat = .atMost most)
    (counted : repeatCount limits value node = .ok count) : count ≤ most.toNat := by
  rw [repeatCount, limited] at counted
  cases exceeded : value.exceeds most with
  | true =>
      simp only [exceeded, if_true] at counted
      obtain ⟨text, -, more⟩ := Fallible.bind_eq_ok_iff.mp counted
      obtain ⟨limitText, -, same⟩ := Fallible.bind_eq_ok_iff.mp more
      cases same
  | false =>
      simp only [exceeded, Bool.false_eq_true, if_false, Except.ok.injEq] at counted
      rw [← counted]
      exact Number.countBelow_le exceeded

end Turtle
