import Turtle.Number.Reading

namespace Turtle.CommandLine

/-- A flag is one setting of the command line. -/
inductive Flag where
  | help
  | source
  | output
  | interactive
  | parse
  | width
  | height
  | lineWidth
  | stroke
  | startX
  | startY
  | heading
  | maxRepeat
  | maxCallDepth
  | debug
  | version

/-- A flag stands alone or takes a text, a whole number or a double. -/
inductive ValueKind where
  | none
  | text
  | whole
  | double

namespace Flag

def all : List Flag :=
  [.help, .source, .output, .interactive, .parse, .width, .height, .lineWidth, .stroke, .startX,
    .startY, .heading, .maxRepeat, .maxCallDepth, .debug, .version]

def spellings : Flag → List String
  | .help => ["-h", "--help"]
  | .source => ["-e", "--eval"]
  | .output => ["-o", "--output"]
  | .interactive => ["-i", "--interactive"]
  | .parse => ["--parse"]
  | .width => ["--width"]
  | .height => ["--height"]
  | .lineWidth => ["--line-width"]
  | .stroke => ["--stroke"]
  | .startX => ["--start-x"]
  | .startY => ["--start-y"]
  | .heading => ["--heading"]
  | .maxRepeat => ["--max-repeat"]
  | .maxCallDepth => ["--max-call-depth"]
  | .debug => ["--debug"]
  | .version => ["--version"]

def valueKind : Flag → ValueKind
  | .help | .interactive | .parse | .debug | .version => .none
  | .source | .output | .stroke => .text
  | .width | .height | .maxRepeat | .maxCallDepth => .whole
  | .lineWidth | .startX | .startY | .heading => .double

def takesValue (flag : Flag) : Bool :=
  match flag.valueKind with
  | .none => false
  | _ => true

/-- A message names a flag by all its spellings. -/
def label (flag : Flag) : String :=
  String.intercalate "/" flag.spellings

end Flag

/-- The spellings of all flags stand in the order of the help text. -/
def spellings : List (String × Flag) :=
  Flag.all.flatMap fun flag => flag.spellings.map fun spelling => (spelling, flag)

def flagOf? (spelling : String) : Option Flag :=
  spellings.lookup spelling

/-- A command line is refused with a message. -/
structure UsageError where
  message : String

def UsageError.ofFlag (flag : Flag) (problem : String) : UsageError :=
  ⟨s!"argument {flag.label}: {problem}"⟩

def expectedValue (flag : Flag) : UsageError :=
  .ofFlag flag "expected one argument"

def ignoredValue (flag : Flag) (value : List Char) : UsageError :=
  .ofFlag flag ("ignored explicit argument " ++ Text.quoted (String.ofList value))

/-- A setting is given a value or left blank. -/
inductive Given (α : Type) where
  | value (content : α)
  | blank

def Given.elim {α β : Type} (blank : β) (take : α → β) : Given α → β
  | .value content => take content
  | .blank => blank

def Given.map {α β : Type} (change : α → β) : Given α → Given β
  | .value content => .value (change content)
  | .blank => .blank

/-- The text attached to an option is its value, and an attached divider leaves it blank. -/
def Given.ofAttached (text : List Char) : Given String :=
  if text == ['-', '-'] then .blank else .value (String.ofList text)

/-- An argument is plain, the divider that ends the options, a known option with the text attached
to it, or an unknown option. Only a short option can be joined to others. -/
inductive Argument where
  | plain (text : String)
  | divider
  | option (flag : Flag) (short : Bool) (attached : Option (List Char))
  | unknown (text : String)

/-- A plain argument may be a negative number. -/
def isNegativeNumber (chars : List Char) : Bool :=
  let body := match chars.reverse with
    | '\n' :: rest => rest.reverse
    | _ => chars
  match body with
  | '-' :: rest =>
      let before := rest.takeWhile Text.isDecimal
      match rest.drop before.length with
      | [] => !before.isEmpty
      | '.' :: after => !after.isEmpty && after.all Text.isDecimal
      | _ => false
  | _ => false

def isShort : List Char → Bool
  | '-' :: '-' :: _ => false
  | _ => true

def splitAtEquals (chars : List Char) : List Char × Option (List Char) :=
  let name := chars.takeWhile (· != '=')
  match chars.drop name.length with
  | [] => (name, none)
  | _ :: value => (name, some value)

/-- A long option may be shortened, and a short one may touch its value. -/
def candidates (chars : List Char) : List (Flag × String × Option (List Char)) :=
  if isShort chars then
    (spellings.filter fun entry => entry.1.toList == chars.take 2).map
      fun entry => (entry.2, entry.1, some (chars.drop 2))
  else
    let (name, attached) := splitAtEquals chars
    (spellings.filter fun entry => name.isPrefixOf entry.1.toList).map
      fun entry => (entry.2, entry.1, attached)

/-- Exact spellings come first, then those before an equals sign, then the candidates. -/
def classifyDashed (text : String) (chars : List Char) : Except UsageError Argument :=
  match flagOf? text with
  | some flag => .ok (.option flag (isShort chars) none)
  | none =>
      if chars.length == 1 then .ok (.plain text)
      else
        let (name, attached) := splitAtEquals chars
        match attached, flagOf? (String.ofList name) with
        | some value, some flag => .ok (.option flag (isShort chars) (some value))
        | _, _ =>
            match candidates chars with
            | [(flag, _, attached)] => .ok (.option flag (isShort chars) attached)
            | [] =>
                if isNegativeNumber chars || chars.contains ' ' then .ok (.plain text)
                else .ok (.unknown text)
            | several =>
                let matching := String.intercalate ", " (several.map fun entry => entry.2.1)
                .error ⟨s!"ambiguous option: {text} could match {matching}"⟩

def classify (text : String) : Except UsageError Argument :=
  match text.toList with
  | '-' :: rest => classifyDashed text ('-' :: rest)
  | _ => .ok (.plain text)

/-- All arguments behind the first divider are plain. -/
def classifyAll : List String → Except UsageError (List Argument)
  | [] => .ok []
  | text :: rest =>
      if text == "--" then .ok (.divider :: rest.map Argument.plain)
      else do
        let argument ← classify text
        let arguments ← classifyAll rest
        return argument :: arguments

end Turtle.CommandLine
