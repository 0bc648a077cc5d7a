import Turtle.Node.Source
import Turtle.Proofs.Double
import Turtle.Proofs.Grammar.Derivation
import Turtle.Proofs.Node
import Turtle.Proofs.Spelling

/-
This file shows that the text of a constant is one literal with the value of the constant.
-/

namespace Turtle

namespace Binary

/-- A double with a whole value equals that whole number. -/
theorem compareInt?_wholePart (negative : Bool) {mantissa : Nat} {exponent : Int}
    (whole : isWhole mantissa exponent = true) :
    (Binary.finite negative mantissa exponent).compareInt?
      (wholePart negative mantissa exponent) = some .eq := by
  rw [compareInt?_finite_iff]
  simp only [isWhole, Bool.or_eq_true, decide_eq_true_eq, beq_iff_eq, twoTo, Nat.pow_eq] at whole
  simp only [wholePart, twoTo, Nat.pow_eq]
  by_cases positive : 0 ≤ exponent
  · rw [if_pos positive, show (-exponent).toNat = 0 by omega]
    cases negative <;> simp
  · have divides := Nat.div_mul_cancel (Nat.dvd_of_mod_eq_zero (whole.resolve_left positive))
    rw [if_neg positive, show exponent.toNat = 0 by omega]
    generalize mantissa / 2 ^ (-exponent).toNat = quotient at divides
    subst divides
    cases negative <;> simp

theorem wholePart_nonneg {negative : Bool} {mantissa : Nat} {exponent : Int}
    (above : (Binary.finite negative mantissa exponent).compareInt? 0 ≠ some .lt) :
    0 ≤ wholePart negative mantissa exponent := by
  cases negative with
  | false =>
      simp only [wholePart, Bool.false_eq_true, if_false]
      exact Int.natCast_nonneg _
  | true =>
      have zero : mantissa = 0 := by
        by_contra nonzero
        apply above
        have power : (0 : Int) < (twoTo exponent.toNat : Nat) :=
          Int.natCast_pos.mpr (Nat.two_pow_pos _)
        have below : -(mantissa : Int) < 0 := by omega
        simp only [compareInt?, if_true, Int.zero_mul, Option.some.injEq]
        split_ifs
        · exact compare_lt_iff_lt.mpr (Int.mul_neg_of_neg_of_pos below power)
        · exact compare_lt_iff_lt.mpr below
      simp [wholePart, zero]

end Binary

namespace Node

/-- The text of a constant is that of an exact natural number, which equals the constant. -/
theorem constantSource_ok {value : Number} {text : String}
    (written : constantSource value = .ok text) :
    ∃ number : Nat, Binary.Exact number ∧ text = toString number ∧
      (Number.whole number).equals value = true := by
  cases value with
  | whole exact =>
      simp only [constantSource] at written
      split_ifs at written with negative
      obtain ⟨number, rfl⟩ := Int.eq_ofNat_of_zero_le (Int.not_lt.mp negative)
      split at written
      · cases written
      · rename_i double rounded
        split_ifs at written with equal
        cases written
        have found : (Binary.ofFloat double).compareInt? number = some .eq := by
          simpa [Number.equals, Number.whole?] using equal
        exact ⟨number, Binary.exact_of_compareInt? found, rfl, by simp [Number.equals]⟩
  | real double =>
      simp only [constantSource] at written
      split_ifs at written with negative
      split at written
      · rename_i sign mantissa exponent decoded
        split_ifs at written with whole
        cases written
        have above : (Binary.finite sign mantissa exponent).compareInt? 0 ≠ some .lt := by
          simpa [Number.isNegative, decoded] using negative
        have equal := Binary.compareInt?_wholePart sign whole
        obtain ⟨number, part⟩ := Int.eq_ofNat_of_zero_le (Binary.wholePart_nonneg above)
        rw [part, ← decoded] at equal
        refine ⟨number, Binary.exact_of_compareInt? equal, ?_, ?_⟩
        · simp only [Number.wholeText, decoded, whole, if_true, part]
          rfl
        · simp [Number.equals, Number.whole?, equal]
      · cases written
      · cases written
  | truth value => cases written
  | blank => cases written

/-- A natural number has a text exactly when a double holds it. -/
theorem constantSource_whole_iff {number : Nat} :
    (∃ text, constantSource (.whole number) = .ok text) ↔ Binary.Exact number := by
  constructor
  · rintro ⟨text, written⟩
    obtain ⟨other, exact, -, equal⟩ := constantSource_ok written
    have same : other = number := by simpa [Number.equals, Number.whole?] using equal
    exact same ▸ exact
  · intro exact
    obtain ⟨double, rounded, equal⟩ := Binary.nearest?_of_exact exact
    have nonneg : ¬ (number : Int) < 0 := by omega
    refine ⟨(Number.whole number).text, ?_⟩
    simp [nonneg, constantSource, Number.wholeToDouble, rounded, Number.equals,
      Number.whole?, equal]

open Token Turtle.Derivation

theorem digitsValue_toDigits (number : Nat) :
    Rule.digitsValue (Nat.toDigits 10 number) = number := by
  have value := Nat.ofDigitChars_ten_toDigits (n := number)
  rwa [Nat.ofDigitChars_eq_foldl] at value

/-- The text of a number is one literal when the limit of digits admits it. -/
theorem spells_toString {number : Nat} (short : (Nat.toDigits 10 number).length ≤ maxDigits) :
    Spells (toString number) [.literal (Nat.toDigits 10 number)] := by
  refine spells_literal ?_ Nat.toDigits_ne_nil ?_ short
  · rw [Nat.toString_eq_repr, Nat.toList_repr]
  · intro char member
    have digit := Nat.isDigit_of_mem_toDigits (by decide) (by decide) member
    simp only [Char.isDigit, Bool.and_eq_true, decide_eq_true_eq] at digit
    exact (Text.isAsciiDigit_iff char).mpr ⟨digit.1, digit.2⟩

/-- The limit of digits admits every exact number. -/
theorem length_toDigits_of_exact {number : Nat} (exact : Binary.Exact number) :
    (Nat.toDigits 10 number).length ≤ maxDigits := by
  rw [Nat.length_toDigits_le_iff (by decide) (by decide)]
  calc number < 2 ^ (number.log2 + 1) := Nat.lt_log2_self
    _ ≤ 10 ^ (number.log2 + 1) := Nat.pow_le_pow_left (by decide) _
    _ ≤ 10 ^ maxDigits := by
        have short := exact.log2_lt
        exact Nat.pow_le_pow_right (by decide) (by unfold maxDigits; omega)

/-- The text of a constant is an atom whose tree is the constant up to its form. -/
theorem constantSource_spells {value : Number} {text : String}
    (written : constantSource value = .ok text) :
    ∃ atom : Atom, Spells text atom.tokens ∧ atom.node.same (.const value) = true := by
  obtain ⟨number, exact, rfl, equal⟩ := constantSource_ok written
  refine ⟨.literal (Nat.toDigits 10 number), spells_toString (length_toDigits_of_exact exact), ?_⟩
  simpa [Atom.node, Rule.literal, digitsValue_toDigits] using equal

end Node

end Turtle
