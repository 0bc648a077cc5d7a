import Turtle.Text.Alphanumeric
import Turtle.Text.Lines

namespace Turtle

/-- A diagnostic tells where a text went wrong, what stood there and what may help. -/
structure Diagnostic where
  message : String
  location : Int
  line : Int
  column : Int
  expected : List String
  got : Option String
  context : Option String
  suggestions : List String

namespace Diagnostic

/-- A diagnostic without a place has line zero and only a message. -/
def unlocated (message : String) : Diagnostic :=
  ⟨message, 0, 0, 0, [], none, none, []⟩

/-- Absent and empty parts have no line in the report. -/
def optionalLine (label : String) : Option String → List String
  | some text => if text.isEmpty then [] else [label ++ text]
  | none => []

def located (diagnostic : Diagnostic) : String :=
  let expected := if diagnostic.expected.isEmpty then []
    else ["  Expected: " ++ String.intercalate ", " diagnostic.expected]
  String.intercalate "\n"
    ([s!"Parse error at line {diagnostic.line}, column {diagnostic.column}:",
        "  " ++ diagnostic.message] ++
      expected ++ optionalLine "  Got: " diagnostic.got ++ optionalLine "" diagnostic.context ++
      diagnostic.suggestions.map ("  hint: " ++ ·)) ++ "\n"

def report (diagnostic : Diagnostic) : String :=
  if diagnostic.line == 0 then diagnostic.message else diagnostic.located

/-- A negative location counts from the end of the text. -/
def offset (text : List Char) (location : Int) : Nat :=
  if location < 0 then (location + text.length).toNat else location.toNat

/-- The line of an offset counts the line feeds before it. -/
def lineAt (text : List Char) (offset : Nat) : Nat :=
  (text.take offset).count '\n' + 1

/-- The index of the last line feed is one before the text when there is none. -/
def lastLineFeed (text : List Char) : Int :=
  match text.reverse.findIdx? (· == '\n') with
  | some distance => text.length - (distance + 1)
  | none => -1

/-- The column of a location is its distance from the last line feed before it. -/
def columnAt (text : List Char) (location : Int) : Int :=
  location - lastLineFeed (text.take (offset text location))

/-- A token is a word, a variable, a run of digits or one character, and at least one wide. -/
def tokenWidth (text : List Char) (offset : Nat) : Nat :=
  match text.drop offset with
  | [] => 1
  | char :: rest =>
      if Text.isAsciiLetter char then 1 + (rest.takeWhile Text.isAsciiLetter).length
      else if char == ':' then 1 + (rest.takeWhile Text.isAsciiLetter).length
      else if Text.isDecimal char then 1 + (rest.takeWhile Text.isDecimal).length
      else 1

def sourceLine (index : Nat) (line : List Char) : String :=
  Text.padLeft 4 (toString (index + 1)) ++ " | " ++ String.ofList line

def markerLine (column width : Int) : String :=
  "     | " ++ Text.repeated (column - 1) " " ++ "^" ++ Text.repeated (width - 1) "~"

/-- The lines around the error are numbered, and a marker under the error line shows the token. -/
def contextText (text : List Char) (line column width margin : Int) : String :=
  let lines := Text.splitLines text
  let first := max 0 (line - margin - 1)
  let last := min (lines.length : Int) (line + margin)
  let shown := (lines.zipIdx.drop first.toNat).take (last - first).toNat
  String.intercalate "\n" (shown.flatMap fun (content, index) =>
    if (index : Int) == line - 1 then [sourceLine index content, markerLine column width]
    else [sourceLine index content])

/-- At most twelve characters up to the end of the line show what was found. -/
def foundAt (text : List Char) (offset : Nat) : String :=
  let rest := text.drop offset
  if (Text.strip rest).isEmpty then "end of input"
  else
    let snippet := Text.strip ((rest.takeWhile (· != '\n')).take 12)
    if snippet.isEmpty then "end of line" else "'" ++ String.ofList snippet ++ "'"

/-- A definition at the front of the text yields its name and the length up to its end. -/
def definitionAt? : List Char → Option (String × Nat)
  | 't' :: 'o' :: rest =>
      let blanks := rest.takeWhile Text.isSpace
      let letters := (rest.dropWhile Text.isSpace).takeWhile Text.isAsciiLetter
      if blanks.isEmpty || letters.isEmpty then none
      else some (String.ofList letters, 2 + blanks.length + letters.length)
  | _ => none

/-- The search passes over the characters of the last definition found. -/
def definedNames (skipped : Nat) (afterWord : Bool) : List Char → List String
  | [] => []
  | char :: rest =>
      match skipped with
      | skipped + 1 => definedNames skipped (Text.isWordChar char) rest
      | 0 =>
          match if afterWord then none else definitionAt? (char :: rest) with
          | some (name, length) => name :: definedNames (length - 1) (Text.isWordChar char) rest
          | none => definedNames 0 (Text.isWordChar char) rest

/-- The found text loses its quotes and everything from its first blank. -/
def foundWord (got : String) : List Char :=
  match got.toList with
  | '\'' :: rest => (Text.stripWhile (· == '\'') rest).takeWhile (· != ' ')
  | _ => []

def hints (text : List Char) (got : String) (reserved : List String) : List String :=
  let word := foundWord got
  let bare := (word.reverse.dropWhile Text.isAsciiDigit).reverse
  let named := (definedNames 0 false text).filter reserved.contains
  let glued := bare.length != word.length && reserved.contains (String.ofList bare)
  let words := Text.letterRuns text
  let unclosed := words.count "end" < words.count "to"
  named.map (fun name => s!"'{name}' is a reserved word and cannot name a procedure") ++
    (if glued then
      [s!"Separate the command from its operand: '{String.ofList bare} " ++
        String.ofList (word.drop bare.length) ++ "'"]
    else []) ++
    (if unclosed then ["Every 'to' definition must be closed with 'end'"]
    else if word == ['e', 'n', 'd'] then ["'end' without a matching 'to'"]
    else []) ++
    (if text.count '[' != text.count ']' then ["Check that every '[' has a matching ']'"] else [])

/-- The diagnostic of a location shows one line on each side of the error. -/
def atLocation (text : List Char) (location : Int) (message : String) (reserved : List String) :
    Diagnostic :=
  let place := offset text location
  let line := lineAt text place
  let column := columnAt text location
  let got := foundAt text place
  { message := message
    location := location
    line := line
    column := column
    expected := ["a statement"]
    got := some got
    context := some (contextText text line column (tokenWidth text place) 1)
    suggestions := hints text got reserved }

def inFile (text : List Char) (filename : String) (location : Int) (message : String)
    (reserved : List String) : Diagnostic :=
  let diagnostic := Diagnostic.atLocation text location message reserved
  { diagnostic with message := filename ++ ": " ++ diagnostic.message }

end Diagnostic

end Turtle
