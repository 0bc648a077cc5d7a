/-
This file reads the value of a double from its bits and rounds exact quotients to doubles.
-/

namespace Turtle

/-- A double is a signed whole mantissa times a power of two, an infinity, or no number. -/
inductive Binary where
  | finite (negative : Bool) (mantissa : Nat) (exponent : Int)
  | infinite (negative : Bool)
  | undefined

def twoTo (exponent : Nat) : Nat :=
  Nat.pow 2 exponent

/-- The quotient goes to the nearest whole number, and a half to the even neighbour. -/
def roundHalfEven (numerator denominator : Nat) : Nat :=
  let quotient := numerator / denominator
  let twice := 2 * (numerator % denominator)
  if twice < denominator then quotient
  else if denominator < twice then quotient + 1
  else quotient + quotient % 2

namespace Binary

def ofFloat (value : Float) : Binary :=
  let bits := value.toBits.toNat
  let negative := bits / twoTo 63 == 1
  let biased : Nat := bits / twoTo 52 % 2048
  let fraction := bits % twoTo 52
  if biased == 0 then .finite negative fraction (-1074)
  else if biased < 2047 then .finite negative (twoTo 52 + fraction) ((biased : Int) - 1075)
  else if fraction == 0 then .infinite negative
  else .undefined

/-- Both numbers are scaled so that the power of two has no negative exponent. -/
def scale (exponent : Int) (numerator denominator : Nat) : Nat × Nat :=
  if 0 ≤ exponent then (numerator, denominator * twoTo exponent.toNat)
  else (numerator * twoTo (-exponent).toNat, denominator)

/-- This is the exponent of the last place of the double nearest to the quotient. -/
def lastPlace (numerator denominator : Nat) : Int :=
  let estimate : Int := numerator.log2 - denominator.log2
  let (scaled, unit) := scale estimate numerator denominator
  max (-1074) (if unit ≤ scaled then estimate - 52 else estimate - 53)

/-- The bits of the double nearest to a quotient are absent when it exceeds every finite double. -/
def nearestBits? (numerator denominator : Nat) : Option Nat :=
  if numerator == 0 then some 0
  else
    let place := lastPlace numerator denominator
    let (scaled, unit) := scale place numerator denominator
    let bits := (place + 1074).toNat * twoTo 52 + roundHalfEven scaled unit
    if bits < 2047 * twoTo 52 then some bits else none

def ofBits (negative : Bool) (bits : Nat) : Float :=
  Float.ofBits (UInt64.ofNat (if negative then twoTo 63 + bits else bits))

def nearest? (negative : Bool) (numerator denominator : Nat) : Option Float :=
  (nearestBits? numerator denominator).map (ofBits negative)

def infinity (negative : Bool) : Float :=
  ofBits negative (2047 * twoTo 52)

def notNumber : Float :=
  ofBits false (2047 * twoTo 52 + twoTo 51)

/-- The whole part of a finite value drops its fraction. -/
def wholePart (negative : Bool) (mantissa : Nat) (exponent : Int) : Int :=
  let magnitude :=
    if 0 ≤ exponent then mantissa * twoTo exponent.toNat else mantissa / twoTo (-exponent).toNat
  if negative then -magnitude else magnitude

def isWhole (mantissa : Nat) (exponent : Int) : Bool :=
  decide (0 ≤ exponent) || mantissa % twoTo (-exponent).toNat == 0

/-- The comparison of a double with a whole number is exact, and absent when undefined. -/
def compareInt? : Binary → Int → Option Ordering
  | .finite negative mantissa exponent, bound =>
      let signed : Int := if negative then -mantissa else mantissa
      some (if 0 ≤ exponent then compare (signed * (twoTo exponent.toNat : Nat)) bound
        else compare signed (bound * (twoTo (-exponent).toNat : Nat)))
  | .infinite negative, _ => some (if negative then .lt else .gt)
  | .undefined, _ => none

/-- This counts the natural numbers below a value; 2^1024 lies above every finite double. -/
def countBelow : Binary → Nat
  | .finite true _ _ => 0
  | .finite false mantissa exponent =>
      if 0 ≤ exponent then mantissa * twoTo exponent.toNat
      else (mantissa + twoTo (-exponent).toNat - 1) / twoTo (-exponent).toNat
  | .infinite true => 0
  | .infinite false => twoTo 1024
  | .undefined => 0

end Binary

end Turtle
