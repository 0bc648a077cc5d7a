import Turtle.Number.Basic
import Mathlib

/-
This file characterises the whole numbers that a double holds exactly, and bounds those that have a
double near them.
-/

namespace Turtle

namespace Binary

section Format

open Float.Model Float.Model.UnpackedFloat

theorem toNat_unpackExponent (bits : BitVec Format.binary64.numBits) :
    (unpackExponent bits).toNat = bits.toNat / 2 ^ 52 % 2048 := by
  simp [unpackExponent, BitVec.extractLsb, Nat.shiftRight_eq_div_pow]

theorem pack_unpack_of_finite {word : BitVec Format.binary64.numBits}
    (finite : word.toNat / 2 ^ 52 % 2048 ≠ 2047) :
    UnpackedFloat.pack Format.binary64 (UnpackedFloat.unpack Format.binary64 word) = word := by
  have exponent : unpackExponent word ≠ -1#_ := by
    intro same
    apply finite
    rw [← toNat_unpackExponent, same]
    rfl
  have number : isNaNBits word = false := by
    rw [isNaNBits, decide_eq_false_iff_not]
    exact fun undefined => exponent undefined.1
  rw [pack_unpack, number]
  rfl

/-- A double made from bits has those bits unless they stand for no number. -/
theorem toBits_ofBits {bits : UInt64} (finite : bits.toNat / 2 ^ 52 % 2048 ≠ 2047) :
    (Float.ofBits bits).toBits = bits :=
  congrArg UInt64.ofBitVec (pack_unpack_of_finite finite)

end Format

/-- The parts of a finite double stay within its format. -/
theorem ofFloat_bounds {double : Float} {negative : Bool} {mantissa : Nat} {exponent : Int}
    (decoded : ofFloat double = .finite negative mantissa exponent) :
    mantissa < 2 ^ 53 ∧ -1074 ≤ exponent ∧ exponent ≤ 971 := by
  simp only [ofFloat, twoTo, Nat.pow_eq, beq_iff_eq] at decoded
  generalize double.toBits.toNat = bits at decoded
  have fraction : bits % 2 ^ 52 < 2 ^ 52 := Nat.mod_lt _ (by decide)
  split at decoded
  · cases decoded
    omega
  · split at decoded
    · cases decoded
      omega
    · split at decoded <;> cases decoded

/-- A finite double equals a whole number when both agree after scaling. -/
theorem compareInt?_finite_iff {negative : Bool} {mantissa : Nat} {exponent bound : Int} :
    (Binary.finite negative mantissa exponent).compareInt? bound = some .eq ↔
      (if negative then -(mantissa : Int) else mantissa) * 2 ^ exponent.toNat =
        bound * 2 ^ (-exponent).toNat := by
  simp only [compareInt?, twoTo, Nat.pow_eq, Option.some.injEq]
  split_ifs with positive flipped
  · simp [show (-exponent).toNat = 0 by omega]
  · simp [show (-exponent).toNat = 0 by omega]
  · simp [show exponent.toNat = 0 by omega]
  · simp [show exponent.toNat = 0 by omega]

/-- A natural number is exact when it is a mantissa of 53 bits times a power of two that the
format reaches. -/
def Exact (value : Nat) : Prop :=
  ∃ exponent ≤ 971, 2 ^ exponent ∣ value ∧ value < 2 ^ (53 + exponent)

theorem Exact.log2_lt {value : Nat} (exact : Exact value) : value.log2 < 1024 := by
  obtain ⟨exponent, inside, -, below⟩ := exact
  rcases Nat.eq_zero_or_pos value with rfl | positive
  · decide
  · have short := (Nat.log2_lt positive.ne').mpr below
    omega

/-- A number that equals a double is exact. -/
theorem exact_of_compareInt? {double : Float} {value : Nat}
    (equal : (ofFloat double).compareInt? value = some .eq) : Exact value := by
  cases decoded : ofFloat double with
  | finite negative mantissa exponent =>
      obtain ⟨small, -, high⟩ := ofFloat_bounds decoded
      rw [decoded, compareInt?_finite_iff] at equal
      have magnitude : mantissa * 2 ^ exponent.toNat = value * 2 ^ (-exponent).toNat := by
        have absolute := congrArg Int.natAbs equal
        simp only [Int.natAbs_mul, Int.natAbs_pow] at absolute
        cases negative <;> simpa using absolute
      refine ⟨exponent.toNat, by omega, ?_, ?_⟩
      · by_cases positive : 0 ≤ exponent
        · rw [show (-exponent).toNat = 0 by omega, pow_zero, Nat.mul_one] at magnitude
          exact Dvd.intro_left mantissa magnitude
        · rw [show exponent.toNat = 0 by omega, pow_zero]
          exact Nat.one_dvd value
      · have scaled : value ≤ mantissa * 2 ^ exponent.toNat := by
          rw [magnitude]
          exact Nat.le_mul_of_pos_right value (Nat.two_pow_pos _)
        rw [pow_add]
        exact scaled.trans_lt (Nat.mul_lt_mul_of_pos_right small (Nat.two_pow_pos _))
  | infinite negative => cases negative <;> simp [decoded, compareInt?] at equal
  | undefined => simp [decoded, compareInt?] at equal

/-- The parts of a normal number are read back from its bits. -/
theorem ofFloat_ofBits {biased fraction : Nat} (normal : 0 < biased) (finite : biased < 2047)
    (small : fraction < 2 ^ 52) :
    ofFloat (ofBits false (biased * 2 ^ 52 + fraction)) =
      .finite false (2 ^ 52 + fraction) ((biased : Int) - 1075) := by
  have word : (UInt64.ofNat (biased * 2 ^ 52 + fraction)).toNat = biased * 2 ^ 52 + fraction := by
    rw [UInt64.toNat_ofNat']
    omega
  have field : (biased * 2 ^ 52 + fraction) / 2 ^ 52 % 2048 = biased := by omega
  have low : (biased * 2 ^ 52 + fraction) % 2 ^ 52 = fraction := by omega
  have high : (biased * 2 ^ 52 + fraction) / 2 ^ 63 = 0 := by omega
  have kept : (Float.ofBits (UInt64.ofNat (biased * 2 ^ 52 + fraction))).toBits =
      UInt64.ofNat (biased * 2 ^ 52 + fraction) :=
    toBits_ofBits (by rw [word, field]; omega)
  simp only [ofFloat, ofBits, Bool.false_eq_true, if_false, kept, word, twoTo, Nat.pow_eq, field,
    low, high, beq_iff_eq, normal.ne', finite, if_true]
  rfl

theorem bits_lt {biased fraction : Nat} (finite : biased < 2047) (small : fraction < 2 ^ 52) :
    biased * 2 ^ 52 + fraction < 2047 * 2 ^ 52 := by
  omega

theorem roundHalfEven_mul {quotient unit : Nat} (positive : 0 < unit) :
    roundHalfEven (quotient * unit) unit = quotient := by
  simp [roundHalfEven, Nat.mul_div_cancel _ positive, positive]

theorem scale_natural (exponent numerator denominator : Nat) :
    scale exponent numerator denominator = (numerator, denominator * 2 ^ exponent) := by
  simp [scale, twoTo]

theorem scale_negative (exponent numerator denominator : Nat) :
    scale (-exponent) numerator denominator = (numerator * 2 ^ exponent, denominator) := by
  cases exponent with
  | zero => simp [scale, twoTo]
  | succ smaller =>
      have negative : ¬ (0 : Int) ≤ -((smaller + 1 : Nat) : Int) := by omega
      rw [scale, if_neg negative, Int.neg_neg, Int.toNat_natCast]
      rfl

theorem lastPlace_one {value : Nat} (positive : 0 < value) :
    lastPlace value 1 = (value.log2 : Int) - 52 := by
  have reached : 2 ^ value.log2 ≤ value := Nat.log2_self_le positive.ne'
  have estimate : (value.log2 : Int) - (Nat.log2 1 : Nat) = value.log2 := by
    rw [show Nat.log2 1 = 0 by decide]
    simp
  simp only [lastPlace, estimate, scale_natural, Nat.one_mul, if_pos reached]
  omega

/-- At its last place an exact number is a whole mantissa with its leading bit set. -/
theorem exists_mantissa {value : Nat} (positive : 0 < value) (exact : Exact value) :
    ∃ mantissa unit, scale (lastPlace value 1) value 1 = (mantissa * unit, unit) ∧ 0 < unit ∧
      2 ^ 52 ≤ mantissa ∧ mantissa < 2 ^ 53 ∧
      mantissa * 2 ^ (lastPlace value 1).toNat = value * 2 ^ (-lastPlace value 1).toNat := by
  have reached : 2 ^ value.log2 ≤ value := Nat.log2_self_le positive.ne'
  have below : value < 2 ^ (value.log2 + 1) := Nat.lt_log2_self
  rw [lastPlace_one positive]
  by_cases large : 52 ≤ value.log2
  · obtain ⟨place, split⟩ := Nat.exists_eq_add_of_le large
    obtain ⟨exponent, -, divides, bounded⟩ := exact
    -- The mantissa has at most 53 bits, so the last place divides the number.
    have within : place ≤ exponent := by
      have := (Nat.pow_lt_pow_iff_right (by decide)).mp (reached.trans_lt bounded)
      omega
    obtain ⟨mantissa, rfl⟩ := (pow_dvd_pow 2 within).trans divides
    rw [split, pow_add] at reached
    rw [split, show 52 + place + 1 = 53 + place by omega, pow_add] at below
    have natural : ((52 + place : Nat) : Int) - 52 = (place : Nat) := by omega
    refine ⟨mantissa, 2 ^ place, ?_, Nat.two_pow_pos place, ?_, ?_, ?_⟩
    · rw [split, natural, scale_natural, Nat.one_mul, Nat.mul_comm]
    · exact Nat.le_of_mul_le_mul_right (by rwa [Nat.mul_comm mantissa]) (Nat.two_pow_pos place)
    · exact Nat.lt_of_mul_lt_mul_right (a := 2 ^ place) (by rwa [Nat.mul_comm mantissa])
    · rw [split, natural]
      simp [Nat.mul_comm]
  · obtain ⟨shift, split⟩ := Nat.exists_eq_add_of_le (Nat.le_of_not_le large)
    have natural : (value.log2 : Int) - 52 = -(shift : Nat) := by omega
    refine ⟨value * 2 ^ shift, 1, ?_, Nat.one_pos, ?_, ?_, ?_⟩
    · rw [natural, scale_negative, Nat.mul_one]
    · rw [split, pow_add]
      exact Nat.mul_le_mul_right _ reached
    · rw [show 53 = value.log2 + 1 + shift by omega, pow_add]
      exact Nat.mul_lt_mul_of_pos_right below (Nat.two_pow_pos shift)
    · rw [natural]
      simp

/-- The double nearest to an exact number equals it. -/
theorem nearest?_of_exact {value : Nat} (exact : Exact value) :
    ∃ double, nearest? false value 1 = some double ∧
      (ofFloat double).compareInt? value = some .eq := by
  rcases Nat.eq_zero_or_pos value with rfl | positive
  · exact ⟨ofBits false 0, rfl, by decide +kernel⟩
  · obtain ⟨mantissa, unit, scaled, unitPositive, leading, bounded, same⟩ :=
      exists_mantissa positive exact
    have short := exact.log2_lt
    obtain ⟨fraction, rfl⟩ := Nat.exists_eq_add_of_le leading
    have place := lastPlace_one positive
    have bits : (lastPlace value 1 + 1074).toNat * 2 ^ 52 + (2 ^ 52 + fraction) =
        (value.log2 + 1023) * 2 ^ 52 + fraction := by
      rw [place]
      omega
    have small : fraction < 2 ^ 52 := by omega
    have finite : (value.log2 + 1023) * 2 ^ 52 + fraction < 2047 * 2 ^ 52 :=
      bits_lt (by omega) small
    refine ⟨ofBits false ((value.log2 + 1023) * 2 ^ 52 + fraction), ?_, ?_⟩
    · simp only [nearest?, nearestBits?, beq_eq_false_iff_ne.mpr positive.ne', scaled,
        roundHalfEven_mul unitPositive, twoTo, Nat.pow_eq, bits, finite]
      rfl
    · rw [ofFloat_ofBits (by omega) (by omega) small, compareInt?_finite_iff]
      have exponent : ((value.log2 + 1023 : Nat) : Int) - 1075 = lastPlace value 1 := by
        rw [place]
        omega
      rw [exponent, if_neg Bool.false_ne_true]
      exact_mod_cast same

end Binary

end Turtle
