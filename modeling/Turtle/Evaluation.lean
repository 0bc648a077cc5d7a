import Turtle.Failure

namespace Turtle

/-- Repetitions are unlimited, limited to a count, or have a blank for a limit. -/
inductive RepeatLimit where
  | unlimited
  | atMost (count : Int)
  | blank

/-- The limits bound the count of a repetition and the number of open calls. -/
structure Limits where
  maxRepeat : RepeatLimit := .atMost 1000000
  maxCallDepth : Int := 1000

/-- This frame budget is there before any limit asks for more. -/
def baseFrames : Nat := 1000

/-- The frame budget grows by eight frames for each call that the limit admits, within bounds. -/
def Limits.frames (limits : Limits) : Nat :=
  max baseFrames (min (8 * limits.maxCallDepth + 200) 20000).toNat

/-- An event is the start of a statement in a state, the start or the end of a procedure body, or a
move. -/
inductive Event where
  | evaluating (node : Node) (state : State)
  | activated (name : String) (depth : Nat)
  | finished (name : String)
  | moved (pixels : Number)

/-- The progress of an evaluation is what it has drawn and what it has done. -/
structure Progress where
  canvas : Canvas
  events : Array Event

def Progress.record (progress : Progress) (event : Event) : Progress :=
  { progress with events := progress.events.push event }

/-- An evaluation ends in a state or a failure, and its progress stays in either case. -/
abbrev Outcome : Type :=
  Except Failure State × Progress

def liftArithmetic {α : Type} (result : Except ArithmeticError α) : Except Failure α :=
  result.mapError Failure.arithmetic

/-- Each level of an expression takes one frame, and a divisor is evaluated before its dividend. -/
def evaluateExpression (bindings : Bindings) : Nat → Node → Except Failure Number
  | 0, _ => .error .outOfFrames
  | frames + 1, node =>
      match node with
      | .const value => .ok value
      | .var name => .ok (bindings.read name)
      | .sub left right => do
          let first ← evaluateExpression bindings frames left
          let second ← evaluateExpression bindings frames right
          liftArithmetic (first.sub second)
      | .div left right => do
          let divisor ← evaluateExpression bindings frames right
          if divisor.isZero then throw (.runtime (.divisionByZero node))
          let dividend ← evaluateExpression bindings frames left
          liftArithmetic (dividend.div divisor)
      | _ => .error (.runtime (.unknownExpression node))

def evaluateComparison (bindings : Bindings) (frames : Nat) (node : Node) : Except Failure Bool :=
  match node with
  | .eq left right => do
      let first ← evaluateExpression bindings frames left
      let second ← evaluateExpression bindings frames right
      return first.equals second
  | _ => .error (.runtime (.unknownComparison node))

/-- The cursor moves and draws the segment it passed over, and a pending stop is cleared. -/
def moveForward (state : State) (pixels : Number) (progress : Progress) : Outcome :=
  let ⟨canvas, events⟩ := progress.record (.moved pixels)
  match state.advance pixels with
  | .error error => (.error (.arithmetic error), ⟨canvas, events⟩)
  | .ok finish =>
      match canvas.draw ⟨state.position, finish⟩ with
      | (.error error, canvas) => (.error (.canvas error), ⟨canvas, events⟩)
      | (.ok (), canvas) =>
          (.ok { state with position := finish, terminated := false }, ⟨canvas, events⟩)

def turn (state : State) (degrees : Number) : Except Failure State := do
  let heading ← liftArithmetic (state.heading.add degrees)
  return { state with heading := heading }

/-- The statements along a right spine run one after another until one of them stops. -/
def runSequence (step : Node → State → Progress → Outcome) :
    Node → State → Progress → Outcome
  | .seq first second, state, progress =>
      match step first state progress with
      | (.ok next, progress) =>
          if next.terminated then (.ok next, progress) else runSequence step second next progress
      | (.error failure, progress) => (.error failure, progress)
  | node, state, progress => step node state progress

/-- The body runs the given number of times unless it stops. -/
def runLoop (step : State → Progress → Outcome) : Nat → State → Progress → Outcome
  | 0, state, progress => (.ok state, progress)
  | count + 1, state, progress =>
      match step state progress with
      | (.ok next, progress) =>
          if next.terminated then (.ok next, progress) else runLoop step count next progress
      | (.error failure, progress) => (.error failure, progress)

/-- A count above the limit is refused before the body runs. The report shows both numbers in
full. -/
def repeatCount (limits : Limits) (times : Number) (node : Node) : Except Failure Nat :=
  match limits.maxRepeat with
  | .unlimited => .ok times.countBelow
  | .atMost limit =>
      if times.exceeds limit then do
        let text ← liftArithmetic times.checkedText
        let _ ← liftArithmetic (Number.whole limit).checkedText
        throw (.runtime (.repeatLimit text limit node))
      else .ok times.countBelow
  | .blank => .error (.arithmetic (.blankLimit times.kind))

/-- A called procedure gives back its cursor and its stop, and a shortage of frames in its body is
reported under its name. -/
def callResult (caller : State) (name : String) (node : Node) :
    Except Failure State → Except Failure State
  | .ok called => .ok (caller.leave called)
  | .error .outOfFrames => .error (.runtime (.frameLimit name node))
  | .error failure => .error failure

/-- A call is over when its body has returned or failed. -/
def finishCall (caller : State) (name : String) (node : Node) (outcome : Outcome) : Outcome :=
  (callResult caller name node outcome.1, outcome.2.record (.finished name))

/-- The report of too deep a call shows the limit in full. -/
def callRefusal (limit : Int) (name : String) (node : Node) : Failure :=
  match (Number.whole limit).checkedText with
  | .ok _ => .runtime (.callDepth limit name node)
  | .error error => .arithmetic error

/-- The procedure of a call is looked up and the call limit checked before the arguments are
evaluated. -/
def prepareCall (limits : Limits) (frames depth : Nat) (name : String) (args : List Node)
    (node : Node) (state : State) : Except Failure (Definition × State) :=
  match state.procedures.find? name with
  | none => .error (.runtime (.undefinedProcedure name node))
  | some (definition, visible) =>
      if limits.maxCallDepth ≤ depth then .error (callRefusal limits.maxCallDepth name node)
      else do
        let values ← args.mapM (evaluateExpression state.bindings frames)
        return (definition, state.enter definition visible values)

/-- A statement takes one frame, and a sequence, repetition, call or branch one more. -/
def evaluate (limits : Limits) : Nat → Nat → Node → State → Progress → Outcome
  | 0, _, _, _, progress => (.error .outOfFrames, progress)
  | frames + 1, depth, node, state, progress =>
      let progress := progress.record (.evaluating node state)
      match node with
      | .forward pixels =>
          match evaluateExpression state.bindings frames pixels with
          | .ok value => moveForward state value progress
          | .error failure => (.error failure, progress)
      | .rotate degrees =>
          (evaluateExpression state.bindings frames degrees >>= turn state, progress)
      | .setHeading degrees =>
          ((evaluateExpression state.bindings frames degrees).map fun value =>
            { state with heading := value }, progress)
      | .define name params body => (.ok (state.define name params body), progress)
      | .stop => (.ok { state with terminated := true }, progress)
      | .seq _ _ =>
          match frames with
          | 0 => (.error .outOfFrames, progress)
          | frames + 1 => runSequence (evaluate limits frames depth) node state progress
      | .loop times body =>
          match frames with
          | 0 => (.error .outOfFrames, progress)
          | frames + 1 =>
              match evaluateExpression state.bindings frames times >>=
                  fun value => repeatCount limits value node with
              | .ok count => runLoop (evaluate limits frames depth body) count state progress
              | .error failure => (.error failure, progress)
      | .branch condition body =>
          match frames with
          | 0 => (.error .outOfFrames, progress)
          | frames + 1 =>
              match evaluateComparison state.bindings frames condition with
              | .ok true => evaluate limits frames depth body state progress
              | .ok false => (.ok { state with terminated := false }, progress)
              | .error failure => (.error failure, progress)
      | .call name args =>
          match frames with
          | 0 => (.error .outOfFrames, progress)
          | frames + 1 =>
              match prepareCall limits frames depth name args node state with
              | .ok (definition, entered) =>
                  finishCall state name node
                    (evaluate limits frames (depth + 1) definition.body entered
                      (progress.record (.activated name (depth + 1))))
              | .error failure => (.error failure, progress)
      | _ => (.error (.runtime (.unknownStatement node)), progress)

end Turtle
