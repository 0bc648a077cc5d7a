import Turtle.Number.Binary

namespace Turtle

/-- A decimal is a coefficient times a power of ten. -/
structure Decimal where
  coefficient : Nat
  exponent : Int

def tenTo (exponent : Nat) : Nat :=
  Nat.pow 10 exponent

namespace Decimal

/-- The pair is the ratio between ten and two raised to the given powers. -/
def ratio (ten two : Int) : Nat × Nat :=
  (tenTo ten.toNat * twoTo (-two).toNat, twoTo two.toNat * tenTo (-ten).toNat)

/-- The value mantissa * 2^exponent is at least the given power of ten. -/
def reaches (mantissa : Nat) (exponent power : Int) : Bool :=
  let (unit, scale) := ratio power exponent
  unit ≤ mantissa * scale

/-- This is the power of ten just above the value mantissa * 2^exponent. -/
def magnitude (mantissa : Nat) (exponent : Int) : Int :=
  let estimate := Int.fdiv ((mantissa.log2 + exponent) * 30103) 100000
  if reaches mantissa exponent (estimate + 1) then estimate + 2
  else if reaches mantissa exponent estimate then estimate + 1
  else estimate

/-- The two neighbours of a value on a decimal grid are tried, and the nearer of two hits wins.
The value and the ends of its rounding interval count quarters of the last binary place. -/
def onGrid? (lower value upper : Nat) (closed : Bool) (unit scale : Nat) : Option Nat :=
  let below := value * scale / unit
  let hitsBelow := if closed then lower * scale ≤ below * unit else lower * scale < below * unit
  let hitsAbove :=
    if closed then (below + 1) * unit ≤ upper * scale else (below + 1) * unit < upper * scale
  match decide hitsBelow, decide hitsAbove with
  | true, true =>
      let down := value * scale - below * unit
      let up := (below + 1) * unit - value * scale
      some (if down < up then below else if up < down then below + 1 else below + below % 2)
  | true, false => some below
  | false, true => some (below + 1)
  | false, false => none

/-- The fewest digits that round to the double mantissa * 2^exponent are found by trying one
digit, then two, up to seventeen, which always suffice. -/
def shortest (mantissa : Nat) (exponent : Int) : Decimal :=
  let lower := if mantissa == twoTo 52 && decide (-1074 < exponent) then 4 * mantissa - 1
    else 4 * mantissa - 2
  let power := magnitude mantissa exponent
  let found := (List.range 17).findSome? fun index =>
    let place := power - (index + 1 : Nat)
    let (unit, scale) := ratio place (exponent - 2)
    (onGrid? lower (4 * mantissa) (4 * mantissa + 2) (mantissa % 2 == 0) unit scale).map
      fun coefficient => ⟨coefficient, place⟩
  found.getD ⟨mantissa, 0⟩

/-- The digits of the coefficient lose their trailing zeros, which move into the exponent. -/
def trimmedDigits (digits : List Char) : List Char :=
  (digits.reverse.dropWhile (· == '0')).reverse

/-- A layout says where positional notation ends and how special values are spelled. -/
structure Layout where
  positionalFrom : Int
  positionalBelow : Int
  exponentDigits : Nat
  infinite : String
  undefined : String

/-- Exponents from -4 to 15 are positional, and an exponent has a sign and two digits. -/
def plain : Layout :=
  ⟨-4, 16, 2, "inf", "nan"⟩

/-- The interchange form spells the special values as words. -/
def interchange : Layout :=
  { plain with infinite := "Infinity", undefined := "NaN" }

def zeros (count : Nat) : List Char :=
  List.replicate count '0'

/-- The point stands after the given number of digits, and both of its sides are filled. -/
def positional (digits : List Char) (point : Int) : List Char :=
  if point ≤ 0 then '0' :: '.' :: zeros (-point).toNat ++ digits
  else if digits.length ≤ point.toNat then
    digits ++ zeros (point.toNat - digits.length) ++ ['.', '0']
  else digits.take point.toNat ++ '.' :: digits.drop point.toNat

def scientific (layout : Layout) (digits : List Char) (power : Int) : List Char :=
  let written := (toString power.natAbs).toList
  let sign := if power < 0 then '-' else '+'
  let fraction := match digits.drop 1 with
    | [] => []
    | rest => '.' :: rest
  digits.take 1 ++ fraction ++
    'e' :: sign :: zeros (layout.exponentDigits - written.length) ++ written

def render (layout : Layout) (decimal : Decimal) : List Char :=
  let written := (toString decimal.coefficient).toList
  let point := decimal.exponent + written.length
  let digits := trimmedDigits written
  let power := point - 1
  if layout.positionalFrom ≤ power && power < layout.positionalBelow then positional digits point
  else scientific layout digits power

def withSign (negative : Bool) (chars : List Char) : List Char :=
  if negative then '-' :: chars else chars

end Decimal

namespace Binary

def text (layout : Decimal.Layout) : Binary → String
  | .finite negative mantissa exponent =>
      String.ofList (Decimal.withSign negative
        (if mantissa == 0 then ['0', '.', '0']
          else Decimal.render layout (Decimal.shortest mantissa exponent)))
  | .infinite negative => String.ofList (Decimal.withSign negative layout.infinite.toList)
  | .undefined => layout.undefined

/-- The exact binary value is rounded to two places, a half to even, and keeps its sign. -/
def twoPlaces : Binary → String
  | .finite negative mantissa exponent =>
      let (scaled, unit) := scale (-exponent) (100 * mantissa) 1
      let hundredths := roundHalfEven scaled unit
      let cents := (toString (hundredths % 100)).toList
      String.ofList (Decimal.withSign negative
        ((toString (hundredths / 100)).toList ++
          '.' :: Decimal.zeros (2 - cents.length) ++ cents))
  | other => text Decimal.plain other

end Binary

end Turtle
