import Turtle.Text.Utf8

namespace Turtle

/-- A symbol of a text is a character, or a half of a surrogate pair that stands alone. -/
inductive Symbol where
  | char (value : Char)
  | half (code : Fin 2048)

/-- A text that the host passes on unread may hold halves, which stand for bytes that are no
UTF-8. -/
abbrev HostText : Type :=
  List Symbol

/-- The run of halves that cannot be encoded starts at the position with the given code. -/
structure EncodeError where
  position : Nat
  length : Nat
  code : Nat

def EncodeError.message (error : EncodeError) : String :=
  let place :=
    if error.length == 1 then
      s!"character '\\u{String.ofList (Text.hexText 4 error.code)}' in position {error.position}"
    else s!"characters in position {error.position}-{error.position + error.length - 1}"
  s!"'utf-8' codec can't encode {place}: surrogates not allowed"

namespace Symbol

def isHalf : Symbol → Bool
  | .half _ => true
  | .char _ => false

def halfCode (code : Fin 2048) : Nat :=
  0xD800 + code.val

/-- The halves of one range stand for the bytes above ASCII. -/
def byte? (code : Fin 2048) : Option UInt8 :=
  if 0xDC80 ≤ halfCode code && halfCode code ≤ 0xDCFF then
    some (UInt8.ofNat (halfCode code - 0xDC00))
  else none

def escaped (quote : Char) : Symbol → List Char
  | .char value => Text.escaped quote value
  | .half code => '\\' :: 'u' :: Text.hexText 4 (halfCode code)

end Symbol

namespace HostText

def ofString (text : String) : HostText :=
  text.toList.map .char

def chars (text : HostText) : List Char :=
  text.filterMap fun
    | .char value => some value
    | .half _ => none

/-- No half is encoded, and the error tells the first run of them. -/
def refusal (position : Nat) (code : Fin 2048) (rest : HostText) : EncodeError :=
  ⟨position, 1 + (rest.takeWhile Symbol.isHalf).length, Symbol.halfCode code⟩

def encodeFrom (position : Nat) : HostText → Except EncodeError (List Char)
  | [] => .ok []
  | .char value :: rest => do return value :: (← encodeFrom (position + 1) rest)
  | .half code :: rest => .error (refusal position code rest)

/-- A text that stands at the position of a longer one is written when all its symbols are
characters. -/
def encodeAt (position : Nat) (text : HostText) : Except EncodeError String :=
  return String.ofList (← text.encodeFrom position)

def pathBytesFrom (position : Nat) : HostText → Except EncodeError (List UInt8)
  | [] => .ok []
  | .char value :: rest => do
      return Text.Utf8.encode (String.singleton value) ++ (← pathBytesFrom (position + 1) rest)
  | .half code :: rest =>
      match Symbol.byte? code with
      | some byte => do return byte :: (← pathBytesFrom (position + 1) rest)
      | none => .error (refusal position code rest)

/-- The name of a file gets back the bytes that its halves stand for. -/
def pathBytes (text : HostText) : Except EncodeError (List UInt8) :=
  text.pathBytesFrom 0

def quoted (text : HostText) : String :=
  let quote := Text.quoteFor text.chars
  String.ofList (quote :: text.flatMap (Symbol.escaped quote) ++ [quote])

end HostText

end Turtle
