import Turtle.CommandLine.Execution

namespace Turtle.CommandLine

/-- A session keeps the cursor and the procedures, the drawing, the files and the frame budget
between lines. -/
structure Session where
  state : State
  canvas : Canvas
  files : FileSystem
  frames : Nat

/-- A line leaves a session and some output, ends the session, or lets an error escape, which keeps
the files. -/
inductive LineResult where
  | prompt (session : Session) (output : String)
  | finished
  | escaped (escape : Escape) (output : String) (files : FileSystem)

def bannerText : String :=
  lines [versionText ++ " - Interactive Mode", "Type 'exit' to quit, ':help' for commands", ""]

def commandsText : String :=
  lines
    ["REPL Commands:",
      "  :state   - Show cursor and procedures",
      "  :save    - Write the drawing so far",
      "  :help    - Show this help",
      "  exit     - Exit REPL"]

def promptText : String := "logo> "

def farewellText : String := "\nGoodbye!\n"

/-- The procedures are listed in the order of their names. -/
def proceduresText (procedures : Procedures) : String :=
  let names := procedures.names.mergeSort (fun first second => decide (first ≤ second))
  if names.isEmpty then "(none)" else String.intercalate ", " names

def showState (session : Session) : LineResult :=
  let position := do
    let x ← session.state.position.x.twoPlaces
    let y ← session.state.position.y.twoPlaces
    return s!"  position = ({x}, {y})\n"
  match position with
  | .error error => .escaped (.arithmetic error) "" session.files
  | .ok first =>
      match session.state.heading.checkedText with
      | .error error => .escaped (.arithmetic error) first session.files
      | .ok heading =>
          .prompt session (first ++ s!"  heading  = {heading}\n" ++
            s!"  procedures = {proceduresText session.state.procedures}\n")

/-- A drawing that cannot be saved ends the session with an error. -/
def saveSession (path : HostText) (session : Session) : LineResult :=
  match saveImage session.canvas path session.files with
  | (.error error, after) => .escaped (error.escape path) "" after
  | (.ok (), after) =>
      match pathLine s!"Saved {session.canvas.surface.size} segments to " path "" with
      | .error error => .escaped (.unencodable error) "" after
      | .ok line => .prompt { session with files := after } line

/-- The evaluation of a program raises the frame budget for all later lines. -/
def Session.raise (session : Session) (interpreter : Interpreter) : Session :=
  { session with frames := max session.frames interpreter.limits.frames }

/-- A stop ends only the line it appears in, and a line that fails leaves the state, the drawing and
the files. -/
def runProgram (interpreter : Interpreter) (session : Session) (program : Node)
    (output : String) : LineResult :=
  let run := interpreter.runTree program session.canvas session.state
  let output := output ++ run.trace
  let raised := session.raise interpreter
  match run.result with
  | .ok state =>
      .prompt { raised with state := { state with terminated := false }, canvas := run.canvas }
        output
  | .error (.reading (.diagnosed diagnostic)) =>
      .prompt raised (output ++ s!"Parse error: {diagnostic.report}\n")
  | .error (.reading (.literalTooLong digits)) =>
      .escaped (.literalTooLong digits) output session.files
  | .error (.failing failure) =>
      match failureEscape failure with
      | .ok error => .prompt raised (output ++ s!"Runtime error: {error.message}\n")
      | .error escape => .escaped escape output session.files

def runLine (settings : Settings) (session : Session) (code : List Char) : LineResult :=
  match Program.readChars (levelsWithin session.frames) code "<repl>" with
  | .error (.diagnosed diagnostic) =>
      .prompt session s!"Parse error: {diagnostic.report}\n"
  | .error (.literalTooLong digits) => .escaped (.literalTooLong digits) "" session.files
  | .ok program =>
      let output := settings.traced (Program.readTrace program "<repl>")
      match settings.interpreter with
      | .ok interpreter => runProgram interpreter session program output
      | .error error => .escaped (.arithmetic error) output session.files

/-- A line is a command of the session or a program. -/
def takeLine (settings : Settings) (session : Session) (line : List Char) : LineResult :=
  let code := Text.strip line
  let command := String.ofList code
  if command == "exit" then .finished
  else if command == "" then .prompt session ""
  else if command == ":help" then .prompt session commandsText
  else if command == ":state" then showState session
  else if command == ":save" then
    settings.output.elim (.escaped .blankOutput "" session.files)
      fun path => saveSession path session
  else runLine settings session code

/-- Each line is read behind a prompt, and the end of the input ends the session. -/
def takeLines (settings : Settings) (session : Session) (output : String) :
    List (List Char) → Execution
  | [] => .exit 0 (output ++ promptText ++ farewellText) session.files
  | line :: rest =>
      match takeLine settings session line with
      | .prompt next text => takeLines settings next (output ++ promptText ++ text) rest
      | .finished => .exit 0 (output ++ promptText) session.files
      | .escaped escape text files => .escape escape (output ++ promptText ++ text) files

/-- The last line of the input needs no line feed. -/
def inputLines (input : String) : List (List Char) :=
  match (Text.splitLines input.toList).reverse with
  | [] :: rest => rest.reverse
  | all => all.reverse

/-- A session starts with an empty drawing. -/
def Session.begin (settings : Settings) (frames : Nat) (files : FileSystem) :
    Except ArithmeticError Session := do
  let state ← settings.initialState
  return ⟨state, settings.canvas, files, frames⟩

def interact (settings : Settings) (frames : Nat) (files : FileSystem) (input : String) :
    Execution :=
  match Session.begin settings frames files with
  | .error error => .escape (.arithmetic error) bannerText files
  | .ok session => takeLines settings session bannerText (inputLines input)

/-- A task is what a command line asks for. -/
inductive Task where
  | help
  | version
  | refusal (error : UsageError)
  | source (settings : Settings) (given : Given String)
  | script (settings : Settings) (path : String)
  | session (settings : Settings)

/-- A source text comes before a script, a script before a session, and a session before the help
text. -/
def task (arguments : List String) : Task :=
  match read arguments with
  | .help => .help
  | .version => .version
  | .refused error => .refusal error
  | .run settings =>
      match settings.source with
      | some given => .source settings given
      | none =>
          match settings.script.filter (· != "") with
          | some path => .script settings path
          | none => if settings.interactive then .session settings else .help

def execute (arguments : List String) (files : FileSystem) (input : String) : Execution :=
  match task arguments with
  | .help => .exit 0 helpText files
  | .version => .exit 0 (versionText ++ "\n") files
  | .refusal error => ⟨.ok 2, "", usageText ++ s!"logo: error: {error.message}\n", files⟩
  | .source settings given =>
      given.elim (.escape .blankSource "" files)
        fun text => runSource settings baseFrames text.toList "<eval>" files
  | .script settings path => runScript settings baseFrames path files
  | .session settings => interact settings baseFrames files input

end Turtle.CommandLine
