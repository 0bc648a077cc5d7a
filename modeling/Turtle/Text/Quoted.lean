import Turtle.Text.Printable

namespace Turtle.Text

def hexDigit (value : Nat) : Char :=
  if value < 10 then Char.ofNat (0x30 + value) else Char.ofNat (0x57 + value)

/-- The number is written with exactly the given count of lower-case digits. -/
def hexText (width value : Nat) : List Char :=
  match width with
  | 0 => []
  | width + 1 => hexDigit (value / Nat.pow 16 width % 16) :: hexText width value

/-- A text stands in single quotes unless it holds a single quote and no double quote. -/
def quoteFor (chars : List Char) : Char :=
  if chars.contains '\'' && !chars.contains '"' then '"' else '\''

/-- Quotes, backslashes, line ends and characters that cannot be shown are escaped. -/
def escaped (quote char : Char) : List Char :=
  if char == quote || char == '\\' then ['\\', char]
  else if char == '\n' then ['\\', 'n']
  else if char == '\r' then ['\\', 'r']
  else if char == '\t' then ['\\', 't']
  else if isPrintable char then [char]
  else if char.toNat < 0x100 then '\\' :: 'x' :: hexText 2 char.toNat
  else if char.toNat < 0x10000 then '\\' :: 'u' :: hexText 4 char.toNat
  else '\\' :: 'U' :: hexText 8 char.toNat

def quoted (text : String) : String :=
  let quote := quoteFor text.toList
  String.ofList (quote :: text.toList.flatMap (escaped quote) ++ [quote])

end Turtle.Text
