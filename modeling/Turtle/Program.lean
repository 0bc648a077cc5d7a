import Turtle.Diagnostic
import Turtle.Grammar
import Turtle.Number.Reading

namespace Turtle

/-- Reading a program fails with a diagnostic, or on a literal that has too many digits. -/
inductive ReadError where
  | diagnosed (diagnostic : Diagnostic)
  | literalTooLong (digits : Nat)

namespace Program

/-- Every text without a name is reported under this one. -/
def unnamed : String := "<input>"

def nestingError (text : List Char) (filename : String) : ReadError :=
  .diagnosed (.inFile text filename 0 "Program nested too deeply to parse" reservedWords)

def abortError (text : List Char) (filename : String) : ParseAbort → ReadError
  | .literalTooLong digits => .literalTooLong digits
  | .nestedTooDeep => nestingError text filename

/-- A text that is no program is reported where its run of complete statements ends. -/
def rejection (levels : Nat) (text : List Char) (filename : String) : ReadError :=
  match Rule.errorLocation levels (.ofList text) with
  | .error cause => abortError text filename cause
  | .ok location =>
      let message := if (Text.strip text).isEmpty then "Empty program" else "Invalid statement"
      .diagnosed (.inFile text filename location message reservedWords)

/-- A text is read whose statements nest within the given levels. -/
def readChars (levels : Nat) (text : List Char) (filename : String) : Except ReadError Node :=
  match Rule.program levels (.ofList text) with
  | .matched node _ => .ok node
  | .unmatched => .error (rejection levels text filename)
  | .aborted cause => .error (abortError text filename cause)

def read (levels : Nat) (text : String) (filename : String) : Except ReadError Node :=
  readChars levels text.toList filename

def readExpression (text : String) (filename : String) : Except ReadError Node :=
  match Rule.wholeExpression (.ofString text) with
  | .matched node _ => .ok node
  | .unmatched =>
      .error (.diagnosed
        (.inFile text.toList filename 0 "Invalid arithmetic expression" reservedWords))
  | .aborted cause => .error (abortError text.toList filename cause)

/-- The trace of a reading counts the statements of the whole program. -/
def readTrace (node : Node) (filename : String) : String :=
  s!"Parsed {node.flatten.length} top-level statements from {filename}\n"

end Program

end Turtle
