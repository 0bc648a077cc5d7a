import Turtle.Text.Quoted

namespace Turtle.Text.Utf8

/-- A byte sequence is ill-formed for one of three reasons. -/
inductive Fault where
  | invalidStart
  | invalidContinuation
  | truncated

/-- The ill-formed run has its first byte at the position and extends over the given length. -/
structure DecodeError where
  position : Nat
  length : Nat
  lead : UInt8
  fault : Fault

def Fault.reason : Fault → String
  | .invalidStart => "invalid start byte"
  | .invalidContinuation => "invalid continuation byte"
  | .truncated => "unexpected end of data"

def DecodeError.message (error : DecodeError) : String :=
  let place :=
    if error.length == 1 then
      s!"byte 0x{String.ofList (hexText 2 error.lead.toNat)} in position {error.position}"
    else s!"bytes in position {error.position}-{error.position + error.length - 1}"
  s!"'utf-8' codec can't decode {place}: {error.fault.reason}"

def isContinuation (byte : UInt8) : Bool :=
  0x80 ≤ byte && byte ≤ 0xBF

/-- The second byte excludes overlong forms, surrogates and codes above the last plane. -/
def admitsSecond (lead second : UInt8) : Bool :=
  if lead == 0xE0 then 0xA0 ≤ second && second ≤ 0xBF
  else if lead == 0xED then 0x80 ≤ second && second ≤ 0x9F
  else if lead == 0xF0 then 0x90 ≤ second && second ≤ 0xBF
  else if lead == 0xF4 then 0x80 ≤ second && second ≤ 0x8F
  else isContinuation second

/-- The lead byte fixes the number of bytes that follow it. -/
def followers? (lead : UInt8) : Option Nat :=
  if lead < 0x80 then some 0
  else if lead < 0xC2 then none
  else if lead < 0xE0 then some 1
  else if lead < 0xF0 then some 2
  else if lead < 0xF5 then some 3
  else none

def leadBits (followers : Nat) (lead : UInt8) : Nat :=
  match followers with
  | 0 => lead.toNat
  | 1 => lead.toNat % 32
  | 2 => lead.toNat % 16
  | _ => lead.toNat % 8

/-- The code collects six bits from each byte that follows the lead. -/
def extend (code : Nat) (byte : UInt8) : Nat :=
  code * 64 + byte.toNat % 64

def decodeFrom (position : Nat) (found : List Char) :
    List UInt8 → Except DecodeError (List Char)
  | [] => .ok found.reverse
  | lead :: rest =>
      match followers? lead with
      | none => .error ⟨position, 1, lead, .invalidStart⟩
      | some 0 => decodeFrom (position + 1) (Char.ofNat lead.toNat :: found) rest
      | some followers =>
          let code := leadBits followers lead
          match rest with
          | [] => .error ⟨position, 1, lead, .truncated⟩
          | second :: rest =>
              if !admitsSecond lead second then .error ⟨position, 1, lead, .invalidContinuation⟩
              else
                let code := extend code second
                if followers == 1 then
                  decodeFrom (position + 2) (Char.ofNat code :: found) rest
                else match rest with
                  | [] => .error ⟨position, 2, lead, .truncated⟩
                  | third :: rest =>
                      if !isContinuation third then
                        .error ⟨position, 2, lead, .invalidContinuation⟩
                      else
                        let code := extend code third
                        if followers == 2 then
                          decodeFrom (position + 3) (Char.ofNat code :: found) rest
                        else match rest with
                          | [] => .error ⟨position, 3, lead, .truncated⟩
                          | fourth :: rest =>
                              if !isContinuation fourth then
                                .error ⟨position, 3, lead, .invalidContinuation⟩
                              else
                                decodeFrom (position + 4)
                                  (Char.ofNat (extend code fourth) :: found) rest

/-- A well-formed byte sequence yields its characters, any other its first ill-formed run. -/
def decode (bytes : List UInt8) : Except DecodeError (List Char) :=
  decodeFrom 0 [] bytes

def encode (text : String) : List UInt8 :=
  text.toUTF8.toList

end Turtle.Text.Utf8
