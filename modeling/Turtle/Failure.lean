import Turtle.Canvas
import Turtle.Node.Description

namespace Turtle

/-- Evaluation cannot go on, and the error names the node where it stopped. -/
inductive RuntimeError where
  | divisionByZero (node : Node)
  | unknownExpression (node : Node)
  | unknownComparison (node : Node)
  | unknownStatement (node : Node)
  | repeatLimit (count : String) (limit : Int) (node : Node)
  | undefinedProcedure (name : String) (node : Node)
  | callDepth (limit : Int) (name : String) (node : Node)
  | frameLimit (name : String) (node : Node)
  | nestedTooDeep (node : Node)

namespace RuntimeError

def message : RuntimeError → String
  | .divisionByZero _ => "Division by zero"
  | .unknownExpression node => s!"Unknown arithmetic expression: {node.describe}"
  | .unknownComparison node => s!"Unknown boolean expression: {node.describe}"
  | .unknownStatement node => s!"Unknown statement: {node.describe}"
  | .repeatLimit count limit _ => s!"Repeat count {count} exceeds the limit of {limit}"
  | .undefinedProcedure name _ => s!"Undefined procedure: {name}"
  | .callDepth limit name _ => s!"Maximum procedure call depth exceeded ({limit}) in {name}"
  | .frameLimit name _ => s!"Maximum procedure call depth exceeded (host recursion limit) in {name}"
  | .nestedTooDeep _ => "Program nested too deeply to evaluate"

def node : RuntimeError → Node
  | .divisionByZero node | .unknownExpression node | .unknownComparison node
  | .unknownStatement node | .repeatLimit _ _ node | .undefinedProcedure _ node
  | .callDepth _ _ node | .frameLimit _ node | .nestedTooDeep node => node

/-- The frame budget, and not the program's own limits, ended the evaluation. -/
def isFrameError : RuntimeError → Bool
  | .frameLimit _ _ | .nestedTooDeep _ => true
  | _ => false

end RuntimeError

/-- A failure is an error of the program, of its arithmetic or of the canvas, or the frame budget
is used up. -/
inductive Failure where
  | runtime (error : RuntimeError)
  | arithmetic (error : ArithmeticError)
  | canvas (error : CanvasError)
  | outOfFrames

end Turtle
