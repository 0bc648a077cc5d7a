import Turtle.Number.Basic
import Turtle.Text.Lines
import Turtle.Text.Quoted

namespace Turtle

/-- A text is no numeral, or it has too many digits. -/
inductive NumeralError where
  | malformed (text : String)
  | tooLong (digits : Nat)

/-- A message shows at most two hundred characters of a malformed numeral. -/
def NumeralError.message : NumeralError → String
  | .malformed text =>
      "invalid literal for int() with base 10: " ++
        String.ofList ((Text.quoted text).toList.take 200)
  | .tooLong digits =>
      s!"Exceeds the limit ({maxDigits} digits) for integer string conversion: " ++
        s!"value has {digits} digits; use sys.set_int_max_str_digits() to increase the limit"

namespace Numeral

def ofDigits (digits : List Nat) : Nat :=
  digits.foldl (fun value digit => 10 * value + digit) 0

/-- A run of digits is not empty, and single underscores may separate its digits. -/
def digitRun? : List Char → Option (List Nat)
  | [] => none
  | [char] => (Text.decimalValue? char).map fun digit => [digit]
  | char :: '_' :: rest => do
      let digit ← Text.decimalValue? char
      let digits ← digitRun? rest
      return digit :: digits
  | char :: rest => do
      let digit ← Text.decimalValue? char
      let digits ← digitRun? rest
      return digit :: digits

/-- The separator controls are not blanks around a numeral. -/
def isBlank (char : Char) : Bool :=
  Text.isSpace char && !(0x1C ≤ char.toNat && char.toNat ≤ 0x1F)

def takeSign : List Char → Bool × List Char
  | '-' :: rest => (true, rest)
  | '+' :: rest => (false, rest)
  | chars => (false, chars)

def isRunChar (char : Char) : Bool :=
  Text.isDecimal char || char == '_'

/-- A whole number may have blanks around it, a sign, and underscores between its digits. Its digits
are counted before the text behind them is looked at. -/
def readWhole (text : String) : Except NumeralError Int :=
  let (negative, body) := takeSign (Text.stripWhile isBlank text.toList)
  match digitRun? (body.takeWhile isRunChar) with
  | none => .error (.malformed text)
  | some digits =>
      if maxDigits < digits.length then .error (.tooLong digits.length)
      else if !(body.dropWhile isRunChar).isEmpty then .error (.malformed text)
      else .ok (if negative then -(ofDigits digits : Int) else ofDigits digits)

/-- The decimal is rounded to the nearest double, and one above every double becomes infinite. -/
def toDouble (negative : Bool) (coefficient : Nat) (exponent : Int) : Float :=
  let size : Int := (toString coefficient).length + exponent
  if coefficient == 0 || size < -330 then Binary.ofBits negative 0
  else if 310 < size then Binary.infinity negative
  else
    let (unit, scale) := Decimal.ratio exponent 0
    (Binary.nearest? negative (coefficient * unit) scale).getD (Binary.infinity negative)

def lowerCase (char : Char) : Char :=
  if 'A' ≤ char && char ≤ 'Z' then Char.ofNat (char.toNat + 32) else char

def optionalRun? : List Char → Option (List Nat)
  | [] => some []
  | chars => digitRun? chars

def readExponent? : List Char → Option Int
  | [] => some 0
  | _ :: rest =>
      let (negative, body) := takeSign rest
      (digitRun? body).map fun digits =>
        if negative then -(ofDigits digits : Int) else ofDigits digits

/-- Digits may stand on either side of the point, and at least one must be there. -/
def readUnsigned? (negative : Bool) (chars : List Char) : Option Float := do
  let isMark := fun char => char == 'e' || char == 'E'
  let coefficient := chars.takeWhile fun char => !isMark char
  let exponent ← readExponent? (chars.dropWhile fun char => !isMark char)
  let before ← optionalRun? (coefficient.takeWhile (· != '.'))
  let after ← optionalRun? ((coefficient.dropWhile (· != '.')).drop 1)
  if before.isEmpty && after.isEmpty then none
  else some (toDouble negative (ofDigits (before ++ after)) (exponent - after.length))

/-- A double is a decimal with an optional exponent, or a word for a special value. -/
def readDouble? (text : String) : Option Float :=
  let (negative, body) := takeSign (Text.stripWhile isBlank text.toList)
  let word := String.ofList (body.map lowerCase)
  if word == "inf" || word == "infinity" then some (Binary.infinity negative)
  else if word == "nan" then some Binary.notNumber
  else readUnsigned? negative body

end Numeral

/-- Plain digits with an optional minus sign are a whole number, any other numeral a double. -/
def Number.read (text : String) : Except NumeralError Number :=
  let digits := match text.toList with
    | '-' :: rest => rest
    | chars => chars
  if !digits.isEmpty && digits.all Text.isAsciiDigit then
    (Numeral.readWhole text).map Number.whole
  else match Numeral.readDouble? text with
    | some value => .ok (.real value)
    | none => .error (.malformed text)

end Turtle
