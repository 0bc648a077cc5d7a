import Turtle.State
import Turtle.Text.Host

namespace Turtle

/-- The kind of a canvas forgets what it has drawn. -/
inductive CanvasKind where
  | recording
  | svg
  | missing
  | shared

def CanvasKind.name : CanvasKind → String
  | .recording => "RecordingCanvas"
  | .svg => "SvgCanvas"
  | .missing => "Canvas"
  | .shared => "ActorCanvas"

/-- Not every kind of canvas takes these requests. -/
inductive SpecialRequest where
  | replay
  | ask
  | stop

def SpecialRequest.name : SpecialRequest → String
  | .replay => "replay"
  | .ask => "actor_ref"
  | .stop => "stop"

/-- A canvas refuses a request when it cannot draw, a number has no text, the name of a colour
cannot be encoded, its actor has stopped, the command is unknown or not complete, or its kind does
not take the request. -/
inductive CanvasError where
  | unimplemented
  | arithmetic (error : ArithmeticError)
  | unencodable (error : EncodeError)
  | stopped
  | unknownCommand (command : String)
  | incompleteMessage
  | unsupported (kind : CanvasKind) (request : SpecialRequest)

def CanvasError.message : CanvasError → String
  | .unimplemented | .stopped => ""
  | .arithmetic error => error.message
  | .unencodable error => error.message
  | .unknownCommand command => "Unknown canvas command: " ++ command
  | .incompleteMessage => "tuple index out of range"
  | .unsupported kind request => s!"'{kind.name}' object has no attribute '{request.name}'"

/-- A page has the size of an image and the style of its lines. -/
structure Page where
  width : Number := .whole 940
  height : Number := .whole 1060
  lineWidth : Number := .whole 10
  stroke : HostText := .ofString "black"

/-- A surface records segments, renders them as lines of an image, or cannot draw at all. -/
inductive Surface where
  | recording (segments : Array Segment)
  | svg (page : Page) (lines : Array String)
  | missing

namespace Surface

def lineElement (segment : Segment) : Except ArithmeticError String := do
  let startX ← segment.start.x.twoPlaces
  let startY ← segment.start.y.twoPlaces
  let finishX ← segment.finish.x.twoPlaces
  let finishY ← segment.finish.y.twoPlaces
  return s!"<line x1=\"{startX}\" y1=\"{startY}\" x2=\"{finishX}\" y2=\"{finishY}\" />"

/-- A segment that cannot be drawn leaves no trace. -/
def draw (surface : Surface) (segment : Segment) : Except CanvasError Unit × Surface :=
  match surface with
  | .recording segments => (.ok (), .recording (segments.push segment))
  | .svg page lines =>
      match lineElement segment with
      | .ok line => (.ok (), .svg page (lines.push line))
      | .error error => (.error (.arithmetic error), .svg page lines)
  | .missing => (.error .unimplemented, .missing)

def pointText (point : Point) : Except ArithmeticError String := do
  let x ← point.x.interchangeText
  let y ← point.y.interchangeText
  return s!"[{x}, {y}]"

def segmentText (segment : Segment) : Except ArithmeticError String := do
  let start ← pointText segment.start
  let finish ← pointText segment.finish
  return s!"[{start}, {finish}]"

def recordingText (segments : Array Segment) : Except ArithmeticError String := do
  let texts ← segments.toList.mapM segmentText
  return "[" ++ String.intercalate ", " texts ++ "]"

def headerText (page : Page) : Except ArithmeticError String := do
  let width ← page.width.checkedText
  let height ← page.height.checkedText
  return "<svg xmlns=\"http://www.w3.org/2000/svg\" " ++
    s!"width=\"{width}\" height=\"{height}\" viewBox=\"0 0 {width} {height}\">"

def groupText (stroke lineWidth : String) : String :=
  s!"<g stroke=\"{stroke}\" stroke-width=\"{lineWidth}\" " ++
    "stroke-linecap=\"round\" fill=\"none\">"

/-- The name of the colour stands behind the header and the start of the group. -/
def strokePosition (header : String) : Nat :=
  (header ++ "\n<g stroke=\"").length

/-- All numbers of a page are written before its text is encoded. -/
def document (page : Page) (lines : Array String) : Except CanvasError String := do
  let header ← (headerText page).mapError .arithmetic
  let lineWidth ← page.lineWidth.checkedText.mapError .arithmetic
  let stroke ← (page.stroke.encodeAt (strokePosition header)).mapError .unencodable
  return String.intercalate "\n"
    (header :: groupText stroke lineWidth :: lines.toList.map ("  " ++ ·) ++
      ["</g>", "</svg>"]) ++ "\n"

def persist : Surface → Except CanvasError String
  | .recording segments => (recordingText segments).mapError .arithmetic
  | .svg page lines => document page lines
  | .missing => .error .unimplemented

/-- This counts what the surface holds. -/
def size : Surface → Nat
  | .recording segments => segments.size
  | .svg _ lines => lines.size
  | .missing => 0

end Surface

/-- A message asks an actor to draw or to persist, lacks its command or its segment, or has a
command that the actor does not know. -/
inductive Message where
  | draw (segment : Segment)
  | persist
  | incomplete
  | other (command : String)

/-- An actor owns a surface and takes messages one at a time in the order of their arrival. -/
structure Actor where
  surface : Surface
  inbox : Array Segment
  running : Bool

namespace Actor

def start (surface : Surface) : Actor :=
  ⟨surface, #[], true⟩

/-- A draw that fails stops the actor, because nobody waits for its answer. -/
def apply (actor : Actor) (segment : Segment) : Actor :=
  match actor with
  | ⟨surface, inbox, true⟩ =>
      match surface.draw segment with
      | (.ok (), surface) => ⟨surface, inbox, true⟩
      | (.error _, surface) => ⟨surface, inbox, false⟩
  | stopped => stopped

/-- All waiting messages are taken from the inbox. -/
def settle (actor : Actor) : Actor :=
  actor.inbox.foldl apply { actor with inbox := #[] }

/-- A message to a stopped actor is refused. -/
def tell (actor : Actor) (segment : Segment) : Except CanvasError Unit × Actor :=
  if actor.running then (.ok (), { actor with inbox := actor.inbox.push segment })
  else (.error .stopped, actor)

/-- The answer to a question comes after every earlier message has been taken. -/
def ask (actor : Actor) (message : Message) : Except CanvasError (Option String) × Actor :=
  let settled := actor.settle
  if !settled.running then (.error .stopped, settled)
  else match message with
    | .draw segment =>
        let (answer, surface) := settled.surface.draw segment
        (answer.map fun _ => none, { settled with surface := surface })
    | .persist => (settled.surface.persist.map some, settled)
    | .incomplete => (.error .incompleteMessage, settled)
    | .other command => (.error (.unknownCommand command), settled)

def stop (actor : Actor) : Actor :=
  { actor.settle with running := false }

end Actor

/-- A canvas is a surface used directly or through an actor. -/
inductive Canvas where
  | direct (surface : Surface)
  | shared (actor : Actor)

namespace Canvas

def draw (canvas : Canvas) (segment : Segment) : Except CanvasError Unit × Canvas :=
  match canvas with
  | .direct surface =>
      let (answer, surface) := surface.draw segment
      (answer, .direct surface)
  | .shared actor =>
      let (answer, actor) := actor.tell segment
      (answer, .shared actor)

def persist (canvas : Canvas) : Except CanvasError String × Canvas :=
  match canvas with
  | .direct surface => (surface.persist, canvas)
  | .shared actor =>
      let (answer, actor) := actor.ask .persist
      (answer.map fun text => text.getD "", .shared actor)

/-- The surface of a canvas shows all that has been sent to it. -/
def surface : Canvas → Surface
  | .direct surface => surface
  | .shared actor => actor.settle.surface

def kind : Canvas → CanvasKind
  | .direct (.recording _) => .recording
  | .direct (.svg _ _) => .svg
  | .direct .missing => .missing
  | .shared _ => .shared

/-- A message goes to the actor of a canvas. -/
def ask (canvas : Canvas) (message : Message) : Except CanvasError (Option String) × Canvas :=
  match canvas with
  | .shared actor =>
      let (answer, actor) := actor.ask message
      (answer, .shared actor)
  | .direct _ => (.error (.unsupported canvas.kind .ask), canvas)

def stop (canvas : Canvas) : Except CanvasError Unit × Canvas :=
  match canvas with
  | .shared actor => (.ok (), .shared actor.stop)
  | .direct _ => (.error (.unsupported canvas.kind .stop), canvas)

/-- The segments are drawn in order up to the first that is refused. -/
def replay (canvas : Canvas) : List Segment → Except CanvasError Unit × Canvas
  | [] => (.ok (), canvas)
  | segment :: rest =>
      match canvas.draw segment with
      | (.ok (), canvas) => replay canvas rest
      | (.error error, canvas) => (.error error, canvas)

/-- What a canvas has recorded is drawn again on another one. -/
def replayOn (canvas target : Canvas) : Except CanvasError Unit × Canvas :=
  match canvas with
  | .direct (.recording segments) => target.replay segments.toList
  | _ => (.error (.unsupported canvas.kind .replay), target)

end Canvas

end Turtle
