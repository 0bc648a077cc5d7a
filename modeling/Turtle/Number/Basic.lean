import Turtle.Number.Decimal

namespace Turtle

/-- A number is a whole number of any size, a double, a truth value that counts as 1 or 0, or a
blank that was given in place of a number and with which nothing can be computed. -/
inductive Number where
  | whole (value : Int)
  | real (value : Float)
  | truth (value : Bool)
  | blank

/-- The kind of a number forgets its value. -/
inductive NumberKind where
  | whole
  | real
  | truth
  | blank

/-- Messages name the kinds of the numbers that do not fit together. -/
def NumberKind.name : NumberKind → String
  | .whole => "int"
  | .real => "float"
  | .truth => "bool"
  | .blank => "list"

inductive Operation where
  | sum
  | difference
  | quotient

def Operation.sign : Operation → String
  | .sum => "+"
  | .difference => "-"
  | .quotient => "/"

/-- Arithmetic fails when a whole number has no double near it, a sine has no value, a text would be
too long, or a blank takes part. -/
inductive ArithmeticError where
  | wholeTooLarge
  | quotientTooLarge
  | outsideDomain
  | tooManyDigits
  | blankOperand (operation : Operation) (left right : NumberKind)
  | blankLimit (left : NumberKind)
  | blankAngle
  | blankPlaces

/-- A blank in front of a sum has a message of its own. -/
def blankOperandMessage (operation : Operation) (left right : NumberKind) : String :=
  match operation, left with
  | .sum, .blank => s!"can only concatenate list (not \"{right.name}\") to list"
  | _, _ => s!"unsupported operand type(s) for {operation.sign}: '{left.name}' and '{right.name}'"

def ArithmeticError.message : ArithmeticError → String
  | .wholeTooLarge => "int too large to convert to float"
  | .quotientTooLarge => "integer division result too large for a float"
  | .outsideDomain => "math domain error"
  | .tooManyDigits =>
      "Exceeds the limit (4300 digits) for integer string conversion; " ++
        "use sys.set_int_max_str_digits() to increase the limit"
  | .blankOperand operation left right => blankOperandMessage operation left right
  | .blankLimit left => s!"'>' not supported between instances of '{left.name}' and 'list'"
  | .blankAngle => "must be real number, not list"
  | .blankPlaces => "unsupported format string passed to list.__format__"

/-- Whole numbers with more digits than this have no decimal text. -/
def maxDigits : Nat := 4300

namespace Number

instance : Inhabited Number := ⟨.whole 0⟩

def kind : Number → NumberKind
  | .whole _ => .whole
  | .real _ => .real
  | .truth _ => .truth
  | .blank => .blank

def isBlank : Number → Bool
  | .blank => true
  | _ => false

def ofTruth (value : Bool) : Int :=
  if value then 1 else 0

/-- Truth values and whole numbers have a whole value. -/
def whole? : Number → Option Int
  | .whole value => some value
  | .truth value => some (ofTruth value)
  | .real _ | .blank => none

/-- A whole number is rounded to the nearest double, a half to even. -/
def wholeToDouble (value : Int) : Except ArithmeticError Float :=
  match Binary.nearest? (value < 0) value.natAbs 1 with
  | some double => .ok double
  | none => .error .wholeTooLarge

def toDouble : Number → Except ArithmeticError Float
  | .whole value => wholeToDouble value
  | .truth value => wholeToDouble (ofTruth value)
  | .real value => .ok value
  | .blank => .error .blankAngle

/-- Two whole numbers combine exactly, and all others as doubles. -/
def combine (operation : Operation) (exact : Int → Int → Except ArithmeticError Number)
    (rounded : Float → Float → Float) (left right : Number) : Except ArithmeticError Number :=
  if left.isBlank || right.isBlank then .error (.blankOperand operation left.kind right.kind)
  else match left.whole?, right.whole? with
    | some first, some second => exact first second
    | _, _ => do
        let first ← left.toDouble
        let second ← right.toDouble
        return .real (rounded first second)

def add (left right : Number) : Except ArithmeticError Number :=
  combine .sum (fun first second => .ok (.whole (first + second))) (· + ·) left right

def sub (left right : Number) : Except ArithmeticError Number :=
  combine .difference (fun first second => .ok (.whole (first - second))) (· - ·) left right

/-- The quotient of two whole numbers is rounded once. -/
def wholeQuotient (first second : Int) : Except ArithmeticError Number :=
  let negative := decide (first < 0) != decide (second < 0)
  match Binary.nearest? negative first.natAbs second.natAbs with
  | some quotient => .ok (.real quotient)
  | none => .error .quotientTooLarge

/-- The divisor is not zero. -/
def div (left right : Number) : Except ArithmeticError Number :=
  combine .quotient wholeQuotient (· / ·) left right

/-- The comparison of a whole number with a double is exact. -/
def equals (left right : Number) : Bool :=
  match left, right with
  | .blank, .blank => true
  | .blank, _ | _, .blank => false
  | .real first, .real second => first == second
  | .real first, second => (Binary.ofFloat first).compareInt? (second.whole?.getD 0) == some .eq
  | first, .real second => (Binary.ofFloat second).compareInt? (first.whole?.getD 0) == some .eq
  | first, second => first.whole? == second.whole?

def isZero (value : Number) : Bool :=
  equals value (.whole 0)

def exceeds (value : Number) (bound : Int) : Bool :=
  match value with
  | .real double => (Binary.ofFloat double).compareInt? bound == some .gt
  | other => other.whole?.any (bound < ·)

def isNegative (value : Number) : Bool :=
  match value with
  | .real double => (Binary.ofFloat double).compareInt? 0 == some .lt
  | other => other.whole?.any (· < 0)

/-- This counts the natural numbers below the value. -/
def countBelow : Number → Nat
  | .real double => (Binary.ofFloat double).countBelow
  | other => (other.whole?.getD 0).toNat

def text : Number → String
  | .whole value => toString value
  | .real value => (Binary.ofFloat value).text Decimal.plain
  | .truth value => if value then "True" else "False"
  | .blank => "[]"

/-- Numbers with too many digits have no text. -/
def checkedText (value : Number) : Except ArithmeticError String :=
  match value with
  | .whole exact =>
      if maxDigits < (Nat.toDigits 10 exact.natAbs).length then .error .tooManyDigits
      else .ok value.text
  | other => .ok other.text

/-- The interchange form differs from the text only in the special doubles. -/
def interchangeText : Number → Except ArithmeticError String
  | .real value => .ok ((Binary.ofFloat value).text Decimal.interchange)
  | other => other.checkedText

def twoPlaces (value : Number) : Except ArithmeticError String :=
  if value.isBlank then .error .blankPlaces
  else do return (Binary.ofFloat (← value.toDouble)).twoPlaces

/-- A double with a whole value is written as that whole number. -/
def wholeText (value : Number) : String :=
  match value with
  | .real double =>
      match Binary.ofFloat double with
      | .finite negative mantissa exponent =>
          if Binary.isWhole mantissa exponent then
            toString (Binary.wholePart negative mantissa exponent)
          else value.text
      | _ => value.text
  | other => other.text

end Number

end Turtle
