import Turtle.Node.Basic
import Turtle.Parser

namespace Turtle

/-- A text is given up when a literal has too many digits or statements nest too deeply. -/
inductive ParseAbort where
  | literalTooLong (digits : Nat)
  | nestedTooDeep

def reservedWords : List String :=
  ["to", "end", "if", "stop", "repeat", "fd", "rt", "seth"]

abbrev Rule (α : Type) : Type :=
  Parser ParseAbort α

namespace Rule

open Turtle.Parser

def digitsValue (digits : List Char) : Nat :=
  digits.foldl (fun value digit => 10 * value + (digit.toNat - '0'.toNat)) 0

/-- A literal is a run of ASCII digits. -/
def number : Rule Nat :=
  span (satisfy Text.isAsciiDigit) (fun digits =>
    if maxDigits < digits.length then .error (.literalTooLong digits.length)
    else .ok (digitsValue digits)) false

/-- A name is a run of ASCII letters that touches no alphanumeric character. -/
def name : Rule String :=
  span (satisfy Text.isAsciiLetter) (fun letters => .ok (String.ofList letters)) true

/-- The colon of a variable touches its name, and the name needs no boundary. -/
def variableName : Rule String := do
  let _ ← satisfy (· == ':')
  span (satisfy Text.isAsciiLetter) (fun letters => .ok (String.ofList letters)) false

def keyword (word : String) : Rule String :=
  name.guard (· == word)

def unreserved : Rule String :=
  name.guard fun word => !reservedWords.contains word

def literal (value : Nat) : Node :=
  .const (.whole (Int.ofNat value))

def atom : Rule Node :=
  choice [literal <$> number, Node.var <$> variableName]

def term : Rule Node :=
  binaryLeft atom (symbol '/') fun _ left right => .div left right

/-- Division folds inside subtraction. -/
def expression : Rule Node :=
  binaryLeft term (symbol '-') fun _ left right => .sub left right

def comparison : Rule Node := do
  let left ← expression
  let _ ← symbol '='
  let right ← expression
  return .eq left right

def command (word : String) (build : Node → Node) : Rule Node := do
  let _ ← keyword word
  let operand ← expression
  return build operand

def loop (inner : Rule Node) : Rule Node := do
  let _ ← keyword "repeat"
  let times ← expression
  let body ← inner
  return .loop times body

/-- One or more statements nest to the right. -/
def statementsOf (inner : Rule Node) : Rule Node :=
  binaryRight inner .seq

def definition (inner : Rule Node) : Rule Node := do
  let _ ← keyword "to"
  let name ← unreserved
  let params ← many variableName
  let body ← statementsOf inner
  let _ ← keyword "end"
  return .define name params body

def branch (inner : Rule Node) : Rule Node := do
  let _ ← keyword "if"
  let condition ← comparison
  let body ← inner
  return .branch condition body

def stop : Rule Node := do
  let _ ← keyword "stop"
  return .stop

def call : Rule Node := do
  let name ← unreserved
  let args ← many expression
  return .call name args

def block (inner : Rule Node) : Rule Node :=
  brackets (symbol '[') (statementsOf inner) (symbol ']')

/-- Every alternative starts with its own word or bracket. -/
def alternatives (inner : Rule Node) : List (Rule Node) :=
  [command "fd" .forward, command "rt" .rotate, command "seth" .setHeading, loop inner,
    definition inner, branch inner, stop, call, block inner]

/-- A statement is tried with the given number of nesting levels left. -/
def statement : Nat → Rule Node
  | 0 => abort .nestedTooDeep
  | depth + 1 => choice (alternatives (statement depth))

def statements (levels : Nat) : Rule Node :=
  statementsOf (statement levels)

/-- A program is one or more statements up to the end of the text. -/
def program (levels : Nat) : Rule Node :=
  atEnd do
    let _ ← spaces
    statements levels

def wholeExpression : Rule Node :=
  atEnd do
    let _ ← spaces
    expression

/-- This reads the longest run of complete statements. -/
def statementRun (levels : Nat) : Rule (List Node) := do
  let _ ← spaces
  many (statement levels)

/-- This is the offset behind the longest run of complete statements. -/
def errorLocation (levels : Nat) (input : Cursor) : Except ParseAbort Nat :=
  match statementRun levels input with
  | .matched _ rest => .ok (input.consumed rest)
  | .unmatched => .ok 0
  | .aborted cause => .error cause

end Rule

end Turtle
