import Turtle.CommandLine.Help
import Turtle.CommandLine.Settings
import Turtle.FileSystem
import Turtle.Node.Source
import Turtle.Run

namespace Turtle.CommandLine

/-- Some errors are not reported but end the program. -/
inductive Escape where
  | literalTooLong (digits : Nat)
  | arithmetic (error : ArithmeticError)
  | canvas (error : CanvasError)
  | source (error : SourceError)
  | file (error : FileError)
  | unencodable (error : EncodeError)
  | blankSource
  | blankOutput
  | outOfFrames

def Escape.message : Escape → String
  | .literalTooLong digits => (NumeralError.tooLong digits).message
  | .arithmetic error => error.message
  | .canvas error => error.message
  | .source error => error.message
  | .file error => error.message
  | .unencodable error => error.message
  | .blankSource => "'list' object has no attribute 'strip'"
  | .blankOutput => "expected str, bytes or os.PathLike object, not list"
  | .outOfFrames => "maximum recursion depth exceeded while calling a Python object"

/-- An execution ends with an exit code or an escaping error; its output and its files stay in
either case. -/
structure Execution where
  ending : Except Escape Nat
  output : String
  errorOutput : String
  files : FileSystem

def Execution.exit (code : Nat) (output : String) (files : FileSystem) : Execution :=
  ⟨.ok code, output, "", files⟩

def Execution.escape (escape : Escape) (output : String) (files : FileSystem) : Execution :=
  ⟨.error escape, output, "", files⟩

namespace Settings

def page (settings : Settings) : Page :=
  ⟨settings.width, settings.height, settings.lineWidth, settings.stroke⟩

def canvas (settings : Settings) : Canvas :=
  .direct (.svg settings.page #[])

/-- The frame budget cannot be computed from a blank call depth. -/
def interpreter (settings : Settings) : Except ArithmeticError Interpreter :=
  match settings.maxCallDepth with
  | .value depth => .ok ⟨⟨settings.maxRepeat, depth⟩, settings.debug⟩
  | .blank => .error (.blankOperand .sum .blank .whole)

/-- The cursor starts at the centre of the canvas unless a flag says otherwise. -/
def startCoordinate (size : Number) : Option Number → Except ArithmeticError Number
  | some value => .ok value
  | none => size.div (.whole 2)

def initialState (settings : Settings) : Except ArithmeticError State := do
  let x ← startCoordinate settings.width settings.startX
  let y ← startCoordinate settings.height settings.startY
  return .initial ⟨x, y⟩ settings.heading

def traced (settings : Settings) (text : String) : String :=
  if settings.debug then text else ""

end Settings

/-- A failure of a program is reported, or it escapes. -/
def failureEscape : Failure → Except Escape RuntimeError
  | .runtime error => .ok error
  | .arithmetic error => .error (.arithmetic error)
  | .canvas error => .error (.canvas error)
  | .outOfFrames => .error .outOfFrames

def divider : String :=
  Text.repeated 50 "=" ++ "\n"

/-- The outline of a program comes between dividers, then its procedures and its canonical text. The
procedures are collected before anything is shown. -/
def showProgram (program : Node) (frames : Nat) (name output : String) (files : FileSystem) :
    Execution :=
  match program.procedureNames frames with
  | none => .escape .outOfFrames output files
  | some procedures =>
      let opened := output ++ s!"Parsed {name}:\n" ++ divider
      match program.outline frames 0 with
      | none => .escape .outOfFrames opened files
      | some outline =>
          let shown := opened ++ outline ++ divider ++
            (if procedures.isEmpty then ""
              else "Procedures: " ++ String.intercalate ", " procedures ++ "\n")
          match program.source frames with
          | .ok text => .exit 0 (shown ++ s!"Canonical: {text}\n") files
          | .error error => .escape (.source error) shown files

/-- The final position is shown with two places, and the heading in full. -/
def finalText (state : State) : Except ArithmeticError String := do
  let x ← state.position.x.twoPlaces
  let y ← state.position.y.twoPlaces
  let heading ← state.heading.checkedText
  return s!"Final position: ({x}, {y}), heading {heading}\n"

/-- A drawing is not saved when its path cannot be encoded, when its file cannot be opened or
filled, or when there is no image of it. -/
inductive SaveError where
  | unencodable (error : EncodeError)
  | file (fault : FileFault)
  | canvas (error : CanvasError)

def SaveError.escape (path : HostText) : SaveError → Escape
  | .unencodable error => .unencodable error
  | .file fault => .file ⟨fault, path⟩
  | .canvas error => .canvas error

/-- The file is opened, and thereby emptied, before the image is made. -/
def saveImage (canvas : Canvas) (path : HostText) (files : FileSystem) :
    Except SaveError Unit × FileSystem :=
  match path.pathBytes with
  | .error error => (.error (.unencodable error), files)
  | .ok bytes =>
      match files.openNew bytes with
      | .error fault => (.error (.file fault), files)
      | .ok place =>
          let opened := files.store place []
          match canvas.persist.1 with
          | .error error => (.error (.canvas error), opened)
          | .ok image =>
              let (answer, filled) := opened.fill place (Text.Utf8.encode image)
              (answer.mapError .file, filled)

/-- A line that shows the path is printed when the path can be encoded. -/
def pathLine (before : String) (path : HostText) (after : String) : Except EncodeError String := do
  return before ++ (← path.encodeAt before.length) ++ after ++ "\n"

/-- The number of segments is shown once the image has been saved, and then the final state when a
trace is asked for. -/
def reportSaved (settings : Settings) (path : HostText) (size : Nat) (final : State)
    (output : String) (files : FileSystem) : Execution :=
  match pathLine s!"Drew {size} segments to " path "" with
  | .error error => .escape (.unencodable error) output files
  | .ok line =>
      if settings.debug then
        match finalText final with
        | .ok text => .exit 0 (output ++ line ++ text) files
        | .error error => .escape (.arithmetic error) (output ++ line) files
      else .exit 0 (output ++ line) files

def reportUnsaved (path : HostText) (fault : FileFault) (output : String) (files : FileSystem) :
    Execution :=
  match pathLine "Error: cannot write '" path ("': " ++ FileError.message ⟨fault, path⟩) with
  | .error error => .escape (.unencodable error) output files
  | .ok line => .exit 1 (output ++ line) files

/-- A fault of the file system is reported, and any other error of the saving escapes. -/
def saveDrawing (settings : Settings) (path : HostText) (final : State) (canvas : Canvas)
    (output : String) (files : FileSystem) : Execution :=
  match saveImage canvas path files with
  | (.ok (), after) => reportSaved settings path canvas.surface.size final output after
  | (.error (.file .nullByte), after) => .escape (.file ⟨.nullByte, path⟩) output after
  | (.error (.file fault), after) => reportUnsaved path fault output after
  | (.error error, after) => .escape (error.escape path) output after

/-- Behind the report of a run-time error stands the node where it arose, when a trace is asked
for. -/
def reportRuntimeError (settings : Settings) (frames : Nat) (name output : String)
    (error : RuntimeError) (files : FileSystem) : Execution :=
  let reported := output ++ s!"Runtime error in '{name}': {error.message}\n"
  if settings.debug then
    match error.node.describeWithin frames with
    | some text => .exit 1 (reported ++ s!"  While evaluating: {text}\n") files
    | none => .escape .outOfFrames reported files
  else .exit 1 reported files

/-- The cursor is placed before the limits are looked at. -/
def prepare (settings : Settings) : Except ArithmeticError (Interpreter × State) := do
  let start ← settings.initialState
  let interpreter ← settings.interpreter
  return (interpreter, start)

def drawProgram (settings : Settings) (program : Node) (name output : String)
    (files : FileSystem) : Execution :=
  match prepare settings with
  | .error error => .escape (.arithmetic error) output files
  | .ok (interpreter, start) =>
      let run := interpreter.runTree program settings.canvas start
      let output := output ++ run.trace
      match run.result with
      | .ok final =>
          settings.output.elim (.escape .blankOutput output files)
            fun path => saveDrawing settings path final run.canvas output files
      | .error (.reading (.diagnosed diagnostic)) =>
          .exit 1 (output ++ s!"Parse error in '{name}': {diagnostic.report}\n") files
      | .error (.reading (.literalTooLong digits)) => .escape (.literalTooLong digits) output files
      | .error (.failing failure) =>
          match failureEscape failure with
          | .ok error =>
              reportRuntimeError settings interpreter.limits.frames name output error files
          | .error escape => .escape escape output files

/-- One program is read within the frames of the moment, and then shown or drawn. -/
def runSource (settings : Settings) (frames : Nat) (text : List Char) (name : String)
    (files : FileSystem) : Execution :=
  match Program.readChars (levelsWithin frames) text name with
  | .error (.diagnosed diagnostic) =>
      .exit 1 s!"Parse error in '{name}': {diagnostic.report}\n" files
  | .error (.literalTooLong digits) => .escape (.literalTooLong digits) "" files
  | .ok program =>
      let output := settings.traced (Program.readTrace program name)
      if settings.parse then showProgram program frames name output files
      else drawProgram settings program name output files

/-- A script must exist and must be readable. -/
def runScript (settings : Settings) (frames : Nat) (script : String) (files : FileSystem) :
    Execution :=
  match files.exists? script with
  | .error error => .escape (.file error) "" files
  | .ok false => .exit 1 s!"Error: Script file '{script}' does not exist\n" files
  | .ok true =>
      match files.readSource script with
      | .error (.diagnosed diagnostic) => .exit 1 s!"Error: {diagnostic.report}\n" files
      | .error (.file error) => .escape (.file error) "" files
      | .ok text => runSource settings frames text script files

end Turtle.CommandLine
