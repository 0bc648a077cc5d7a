import Turtle.Evaluation
import Turtle.Program

namespace Turtle

/-- A program is given as text or as a tree. -/
inductive Source where
  | text (content : String)
  | tree (node : Node)

/-- A run fails while its text is read or while it is evaluated. -/
inductive RunError where
  | reading (error : ReadError)
  | failing (failure : Failure)

/-- A program that cannot be read is never evaluated. -/
def RunError.isReading : RunError → Bool
  | .reading _ => true
  | .failing _ => false

/-- A run leaves a result, the canvas and the text of its trace. -/
structure Run where
  result : Except RunError State
  canvas : Canvas
  trace : String

/-- An interpreter has limits and may write a trace. -/
structure Interpreter where
  limits : Limits := {}
  debug : Bool := false

def Event.trace : Event → String
  | .evaluating node _ => s!"Evaluating: {node.kind.name}\n"
  | _ => ""

def Progress.trace (progress : Progress) : String :=
  progress.events.foldl (fun text event => text ++ event.trace) ""

def Canvas.blank : Canvas :=
  .direct (.recording #[])

def Canvas.segments : Canvas → List Segment
  | .direct (.recording segments) => segments.toList
  | _ => []

namespace Interpreter

def traced (interpreter : Interpreter) (text : String) : String :=
  if interpreter.debug then text else ""

/-- The statement draws on the canvas as it goes, within the given frame budget. -/
def evaluateWithin (interpreter : Interpreter) (frames : Nat) (node : Node) (canvas : Canvas)
    (state : State) : Run :=
  let (outcome, progress) := evaluate interpreter.limits frames 0 node state ⟨canvas, #[]⟩
  ⟨outcome.mapError RunError.failing, progress.canvas, interpreter.traced progress.trace⟩

def evaluateDirectly (interpreter : Interpreter) (node : Node) (canvas : Canvas) (state : State) :
    Run :=
  interpreter.evaluateWithin interpreter.limits.frames node canvas state

/-- A program that runs out of frames outside every procedure is nested too deeply. -/
def nestingFailure (node : Node) : Failure → Failure
  | .outOfFrames => .runtime (.nestedTooDeep node)
  | failure => failure

/-- The segments of a program reach the canvas only after all of it has been evaluated. -/
def runTree (interpreter : Interpreter) (node : Node) (canvas : Canvas) (state : State) : Run :=
  let (outcome, progress) :=
    evaluate interpreter.limits interpreter.limits.frames 0 node state ⟨.blank, #[]⟩
  let trace := interpreter.traced progress.trace
  match outcome with
  | .error failure => ⟨.error (.failing (nestingFailure node failure)), canvas, trace⟩
  | .ok final =>
      match canvas.replay progress.canvas.segments with
      | (.ok (), canvas) => ⟨.ok final, canvas, trace⟩
      | (.error error, canvas) => ⟨.error (.failing (.canvas error)), canvas, trace⟩

/-- A text is read first, and the trace of its reading comes first. -/
def withTree (interpreter : Interpreter) (levels : Nat) (source : Source) (canvas : Canvas)
    (next : Node → Run) : Run :=
  match source with
  | .tree node => next node
  | .text content =>
      match Program.read levels content Program.unnamed with
      | .error error => ⟨.error (.reading error), canvas, ""⟩
      | .ok node =>
          let run := next node
          { run with
            trace := interpreter.traced (Program.readTrace node Program.unnamed) ++ run.trace }

/-- The statements of a text may nest within the given levels. -/
def run (interpreter : Interpreter) (levels : Nat) (source : Source) (canvas : Canvas)
    (state : State) : Run :=
  interpreter.withTree levels source canvas fun node => interpreter.runTree node canvas state

/-- The frame budget is raised by the first program that is evaluated, and never lowered. -/
def raisedFrames (interpreter : Interpreter) (frames : Nat)
    (results : List (Except RunError State)) : Nat :=
  let unread := fun
    | .error error => RunError.isReading error
    | .ok _ => false
  if results.all unread then frames else max frames interpreter.limits.frames

end Interpreter

/-- A text is read within the frame budget of the moment, and a level of nesting takes up to seven
frames. -/
def levelsWithin (frames : Nat) : Nat :=
  frames / 7

/-- The results stand in the order of input, and the traces follow one another. -/
structure Batch where
  results : List (Except RunError State)
  canvas : Canvas
  trace : String

/-- The states of a batch are complete unless a program fails, and the first failure in the order of
input counts. -/
def Batch.states (batch : Batch) : Except RunError (List State) :=
  batch.results.mapM id

/-- A batch needs a state for each program and at least one worker. -/
inductive BatchError where
  | stateCount
  | workerCount

def BatchError.message : BatchError → String
  | .stateCount => "run_programs needs one initial state per program"
  | .workerCount => "max_workers must be greater than 0"

namespace Interpreter

/-- Independent programs run one after another on one canvas, also behind one that fails. The frame
budget is theirs in common, so that a text may nest deeper behind a program that has raised it. -/
def runEach (interpreter : Interpreter) : Nat → List (Source × State) → Canvas → Batch
  | _, [], canvas => ⟨[], canvas, ""⟩
  | frames, (source, state) :: rest, canvas =>
      let run := interpreter.run (levelsWithin frames) source canvas state
      let batch :=
        runEach interpreter (interpreter.raisedFrames frames [run.result]) rest run.canvas
      ⟨run.result :: batch.results, batch.canvas, run.trace ++ batch.trace⟩

def runBatch (interpreter : Interpreter) (frames : Nat) (sources : List Source)
    (states : Option (List State)) (workers : Option Int) (canvas : Canvas) :
    Except BatchError Batch :=
  let states := states.getD (sources.map fun _ => State.origin)
  if states.length != sources.length then .error .stateCount
  else if workers.any (· ≤ 0) then .error .workerCount
  else .ok (interpreter.runEach frames (sources.zip states) canvas)

end Interpreter

end Turtle
