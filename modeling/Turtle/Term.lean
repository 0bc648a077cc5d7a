import Turtle.Grammar
import Turtle.Number.Reading

namespace Turtle

/-- The value of a parser term is a text, a whole number or a list of values. -/
inductive Value where
  | text (content : String)
  | whole (number : Int)
  | list (items : List Value)

namespace Value

instance : Inhabited Value := ⟨.list []⟩

/-- The empty text, zero and the empty list count as empty. -/
def isEmpty : Value → Bool
  | .text content => content.isEmpty
  | .whole number => number == 0
  | .list items => items.isEmpty

def typeName : Value → String
  | .text _ => "str"
  | .whole _ => "int"
  | .list _ => "list"

end Value

/-- An action on a value is refused for the kind of the value or for its content. -/
inductive TermError where
  | wrongKind (message : String)
  | numeral (error : NumeralError)

namespace Term

/-- A character class is a named class or the characters of a text. -/
inductive CharSet where
  | space
  | letter
  | digit
  | any
  | oneOf (chars : List Char)
  | exactly (text : String)

def CharSet.contains : CharSet → Char → Bool
  | .space, char => Text.isSpace char
  | .letter, char => Text.isAsciiLetter char
  | .digit, char => Text.isAsciiDigit char
  | .any, _ => true
  | .oneOf chars, char => chars.contains char
  | .exactly text, char => text.toList == [char]

/-- An action joins texts, reads a whole number, measures a length or adds a tag. -/
inductive Action where
  | join
  | number
  | length
  | tag

def joinFrom (index : Nat) : List Value → Except TermError String
  | [] => .ok ""
  | .text content :: rest => do return content ++ (← joinFrom (index + 1) rest)
  | value :: _ =>
      .error (.wrongKind s!"sequence item {index}: expected str instance, {value.typeName} found")

def joinText : Value → Except TermError String
  | .list items => joinFrom 0 items
  | .text content => .ok content
  | .whole _ => .error (.wrongKind "can only join an iterable")

def Action.apply : Action → Value → Except TermError Value
  | .join, value => (joinText value).map Value.text
  | .number, value => do
      match Numeral.readWhole (← joinText value) with
      | .ok result => .ok (.whole result)
      | .error error => .error (.numeral error)
  | .length, .list items => .ok (.whole items.length)
  | .length, .text content => .ok (.whole content.length)
  | .length, .whole _ => .error (.wrongKind "object of type 'int' has no len()")
  | .tag, value => .ok (.list [.text "tag", value])

/-- A test keeps values that are not empty, equal a word, or are not reserved. -/
inductive Test where
  | nonempty
  | word (text : String)
  | unreserved

/-- The value stays, is rejected, or has a kind that the test does not admit. -/
def Test.apply : Test → Value → Except TermError Bool
  | .nonempty, value => .ok (!value.isEmpty)
  | .word text, .text content => .ok (content == text)
  | .word _, _ => .ok false
  | .unreserved, .text content => .ok (!reservedWords.contains content)
  | .unreserved, .whole _ => .ok true
  | .unreserved, .list _ => .error (.wrongKind "unhashable type: 'list'")

end Term

/-- A term describes a parser. The parser of a deferred term is built when it is first applied,
and its label tells it from the other deferred terms. -/
inductive Term where
  | satisfy (set : Term.CharSet)
  | map (term : Term) (action : Term.Action)
  | many (term : Term)
  | keep (term : Term) (test : Term.Test)
  | sequence (terms : List Term)
  | choice (terms : List Term)
  | deferred (label : Nat) (term : Term)
  | lexeme (term : Term) (bounded : Bool)
  | binaryLeft (base operator : Term)
  | binaryRight (base : Term)
  | brackets (opening inner closing : Term)
  | atEnd (term : Term)

namespace Term

instance : Inhabited Term := ⟨.sequence []⟩

def spaces : Term :=
  .many (.satisfy .space)

def symbol (text : String) : Term :=
  .lexeme (.satisfy (.exactly text)) false

def span (char : Term) (action : Action) (bounded : Bool) : Term :=
  .lexeme (.map (.keep (.many char) .nonempty) action) bounded

end Term

end Turtle
