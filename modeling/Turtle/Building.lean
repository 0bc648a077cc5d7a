import Turtle.Parser

namespace Turtle

namespace Reply

variable {ε α β : Type}

/-- The value of a match is replaced, and the text is given up where that fails. -/
def convert (action : α → Except ε β) : Reply ε α → Reply ε β
  | .matched value rest =>
      match action value with
      | .ok result => .matched result rest
      | .error cause => .aborted cause
  | .unmatched => .unmatched
  | .aborted cause => .aborted cause

/-- The value of a match is replaced, and the match fails where it has no replacement. -/
def refine (view : α → Option β) : Reply ε α → Reply ε β
  | .matched value rest =>
      match view value with
      | some result => .matched result rest
      | none => .unmatched
  | .unmatched => .unmatched
  | .aborted cause => .aborted cause

/-- A match counts only at the end of the text. -/
def atEnd : Reply ε α → Reply ε α
  | .matched value rest => if rest.chars.isEmpty then .matched value rest else .unmatched
  | .unmatched => .unmatched
  | .aborted cause => .aborted cause

end Reply

/-- A building parser also keeps the labels of the deferred parsers built so far. -/
def Building (ε α : Type) : Type :=
  List Nat → Cursor → Reply ε α × List Nat

namespace Building

variable {ε α β : Type}

instance : Monad (Building ε) where
  pure value := fun built input => (.matched value input, built)
  bind parser next := fun built input =>
    match parser built input with
    | (.matched value rest, built) => next value built rest
    | (.unmatched, built) => (.unmatched, built)
    | (.aborted cause, built) => (.aborted cause, built)

/-- A parser without deferred parts builds nothing. -/
def ofParser (parser : Parser ε α) : Building ε α := fun built input =>
  (parser input, built)

/-- The reply is followed up by a function that builds nothing. -/
def andThen (parser : Building ε α) (next : Reply ε α → Reply ε β) : Building ε β :=
  fun built input =>
    let (reply, built) := parser built input
    (next reply, built)

def manyWithin (parser : Building ε α) : Nat → List α → Building ε (List α)
  | 0, found => fun built input => (.matched found.reverse input, built)
  | budget + 1, found => fun built input =>
      match parser built input with
      | (.matched value rest, built) =>
          if rest.remaining < input.remaining then
            manyWithin parser budget (value :: found) built rest
          else (.matched found.reverse input, built)
      | (.unmatched, built) => (.matched found.reverse input, built)
      | (.aborted cause, built) => (.aborted cause, built)

def many (parser : Building ε α) : Building ε (List α) := fun built input =>
  manyWithin parser (input.remaining + 1) [] built input

def sequence : List (Building ε α) → Building ε (List α)
  | [] => pure []
  | parser :: rest => do
      let value ← parser
      let values ← sequence rest
      return value :: values

def choice : List (Building ε α) → Building ε α
  | [] => fun built _ => (.unmatched, built)
  | parser :: rest => fun built input =>
      match parser built input with
      | (.unmatched, built) => choice rest built input
      | answer => answer

/-- The parser of a label is built on its first use and kept from then on. -/
def deferred (label : Nat) (parser : Building ε α) : Building ε α := fun built input =>
  parser (if built.contains label then built else label :: built) input

end Building

end Turtle
