import Turtle.Text.Alphanumeric

namespace Turtle

/-- A cursor is the text still to be read together with its length. -/
structure Cursor where
  chars : List Char
  remaining : Nat
  counted : remaining = chars.length

namespace Cursor

def ofList (chars : List Char) : Cursor :=
  ⟨chars, chars.length, rfl⟩

def ofString (text : String) : Cursor :=
  ofList text.toList

def text (cursor : Cursor) : String :=
  String.ofList cursor.chars

/-- The next character is read together with the cursor behind it. -/
def next? (cursor : Cursor) : Option (Char × Cursor) :=
  match cursor with
  | ⟨[], _, _⟩ => none
  | ⟨char :: rest, remaining, counted⟩ => some (char, ⟨rest, remaining - 1, by simp [counted]⟩)

end Cursor

/-- A parser matches a value and leaves the rest, does not match, or gives up the whole text. -/
inductive Reply (ε α : Type) where
  | matched (value : α) (rest : Cursor)
  | unmatched
  | aborted (cause : ε)

/-- A parser reads from the front of the remaining text. -/
def Parser (ε α : Type) : Type :=
  Cursor → Reply ε α

namespace Parser

variable {ε α β : Type}

instance : Monad (Parser ε) where
  pure value := fun input => .matched value input
  bind parser next := fun input =>
    match parser input with
    | .matched value rest => next value rest
    | .unmatched => .unmatched
    | .aborted cause => .aborted cause

def abort (cause : ε) : Parser ε α :=
  fun _ => .aborted cause

/-- This matches one character that satisfies the test. -/
def satisfy (test : Char → Bool) : Parser ε Char := fun input =>
  match input.next? with
  | some (char, rest) => if test char then .matched char rest else .unmatched
  | none => .unmatched

/-- The value of a match is replaced, and the match fails where it has no replacement. -/
def refine (parser : Parser ε α) (view : α → Option β) : Parser ε β := fun input =>
  match parser input with
  | .matched value rest =>
      match view value with
      | some result => .matched result rest
      | none => .unmatched
  | .unmatched => .unmatched
  | .aborted cause => .aborted cause

/-- The value of a match is replaced, and the text is given up where that fails. -/
def convert (parser : Parser ε α) (action : α → Except ε β) : Parser ε β := fun input =>
  match parser input with
  | .matched value rest =>
      match action value with
      | .ok result => .matched result rest
      | .error cause => .aborted cause
  | .unmatched => .unmatched
  | .aborted cause => .aborted cause

/-- A match counts only if its value passes the test. -/
def guard (parser : Parser ε α) (test : α → Bool) : Parser ε α :=
  parser.refine fun value => if test value then some value else none

/-- Each round of the repetition takes one unit of the budget. -/
def manyWithin (parser : Parser ε α) : Nat → List α → Parser ε (List α)
  | 0, found => fun input => .matched found.reverse input
  | budget + 1, found => fun input =>
      match parser input with
      | .matched value rest =>
          if rest.remaining < input.remaining then
            manyWithin parser budget (value :: found) rest
          else .matched found.reverse input
      | .unmatched => .matched found.reverse input
      | .aborted cause => .aborted cause

/-- The parser is repeated while it matches and consumes; a round consumes at least one character,
so the rounds are fewer than the budget. -/
def many (parser : Parser ε α) : Parser ε (List α) := fun input =>
  manyWithin parser (input.remaining + 1) [] input

def nonempty (parser : Parser ε (List α)) : Parser ε (List α) :=
  parser.guard fun values => !values.isEmpty

def sequence : List (Parser ε α) → Parser ε (List α)
  | [] => pure []
  | parser :: rest => do
      let value ← parser
      let values ← sequence rest
      return value :: values

/-- The first alternative that matches wins. -/
def choice : List (Parser ε α) → Parser ε α
  | [] => fun _ => .unmatched
  | parser :: rest => fun input =>
      match parser input with
      | .unmatched => choice rest input
      | reply => reply

/-- The match fails when the next character passes the test. -/
def notBefore (test : Char → Bool) (value : α) : Parser ε α := fun input =>
  match input.next? with
  | some (char, _) => if test char then .unmatched else .matched value input
  | none => .matched value input

def spaces : Parser ε (List Char) :=
  many (satisfy Text.isSpace)

/-- A token consumes the white space behind it. A bounded token must not touch an alphanumeric
character. -/
def lexeme (parser : Parser ε α) (bounded : Bool) : Parser ε α := do
  let value ← parser
  let blanks ← spaces
  if bounded && blanks.isEmpty then notBefore Text.isAlphanumeric value else return value

/-- One or more characters are folded into one token. -/
def span (char : Parser ε α) (combine : List α → Except ε β) (bounded : Bool) : Parser ε β :=
  lexeme ((nonempty (many char)).convert combine) bounded

def symbol (char : Char) : Parser ε Char :=
  lexeme (satisfy (· == char)) false

/-- This reads operands with operators between them and folds to the left. -/
def binaryLeft (base : Parser ε α) (operator : Parser ε β) (combine : β → α → α → α) :
    Parser ε α := do
  let first ← base
  let tails ← many do
    let sign ← operator
    let right ← base
    return (sign, right)
  return tails.foldl (fun left tail => combine tail.1 left tail.2) first

def foldRight? (combine : α → α → α) : List α → Option α
  | [] => none
  | [value] => some value
  | value :: rest => (foldRight? combine rest).map (combine value)

/-- This reads one or more items without separators and folds to the right. -/
def binaryRight (base : Parser ε α) (combine : α → α → α) : Parser ε α :=
  (many base).refine (foldRight? combine)

def brackets {γ : Type} (opening : Parser ε β) (inner : Parser ε α) (closing : Parser ε γ) :
    Parser ε α := do
  let _ ← opening
  let value ← inner
  let _ ← closing
  return value

/-- The match fails unless it reaches the end of the text. -/
def atEnd (parser : Parser ε α) : Parser ε α := fun input =>
  match parser input with
  | .matched value rest => if rest.chars.isEmpty then .matched value rest else .unmatched
  | .unmatched => .unmatched
  | .aborted cause => .aborted cause

end Parser

/-- This counts the characters between two cursors of one text. -/
def Cursor.consumed (input rest : Cursor) : Nat :=
  input.remaining - rest.remaining

end Turtle
