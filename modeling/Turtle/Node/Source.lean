import Turtle.Node.Description
import Turtle.Node.Outline

namespace Turtle

/-- A tree has no source text when an operand needs grouping, a constant cannot be written, a node
stands where its kind does not belong, or the frames run out at a node. -/
inductive SourceError where
  | quotientGrouping (node : Node)
  | differenceGrouping (node : Node)
  | constant (value : Number)
  | arithmetic (error : ArithmeticError)
  | undefinedWhole
  | infiniteWhole
  | expectedExpression (node : Node)
  | expectedStatement (node : Node)
  | missingOperand (kind : Kind)
  | outOfFrames (node : Node)

def SourceError.message : SourceError → String
  | .quotientGrouping node => s!"Division operands need grouping: {node.describe}"
  | .differenceGrouping node => s!"Right operand of '-' needs grouping: {node.describe}"
  | .constant value => s!"Constant {value.text} has no source form"
  | .arithmetic error => error.message
  | .undefinedWhole => "cannot convert float NaN to integer"
  | .infiniteWhole => "cannot convert float infinity to integer"
  | .expectedExpression node => s!"Not an arithmetic expression: {node.describe}"
  | .expectedStatement node => s!"Not a statement: {node.describe}"
  | .missingOperand kind => s!"'{kind.name}' object has no attribute 'left'"
  | .outOfFrames (.const _) =>
      "maximum recursion depth exceeded while getting the str of an object"
  | .outOfFrames _ => "maximum recursion depth exceeded"

namespace Node

/-- A constant is written when it is a natural number that a double holds exactly. -/
def constantSource (value : Number) : Except SourceError String :=
  match value with
  | .truth _ | .blank => .error (.constant value)
  | .whole exact =>
      if exact < 0 then .error (.constant value)
      else match Number.wholeToDouble exact with
        | .error error => .error (.arithmetic error)
        | .ok double =>
            if Number.equals (.real double) value then .ok value.text
            else .error (.constant value)
  | .real double =>
      if value.isNegative then .error (.constant value)
      else match Binary.ofFloat double with
        | .finite _ mantissa exponent =>
            if Binary.isWhole mantissa exponent then .ok value.wholeText
            else .error (.constant value)
        | .infinite _ => .error .infiniteWhole
        | .undefined => .error .undefinedWhole

def isDifference : Node → Bool
  | .sub _ _ => true
  | _ => false

def isOperation : Node → Bool
  | .sub _ _ | .div _ _ => true
  | _ => false

/-- Operators group to the left and division binds tighter, so a tree grouped otherwise cannot
be written. Each level of an expression takes one frame. -/
def expressionSource : Node → Nat → Except SourceError String
  | node, 0 => .error (.outOfFrames node)
  | node, frames + 1 =>
      match node with
      | .const value => constantSource value
      | .var name => .ok (":" ++ name)
      | .div left right =>
          if left.isDifference || right.isOperation then .error (.quotientGrouping node)
          else do
            let first ← expressionSource left frames
            let second ← expressionSource right frames
            return first ++ " / " ++ second
      | .sub left right =>
          if right.isDifference then .error (.differenceGrouping node)
          else do
            let first ← expressionSource left frames
            let second ← expressionSource right frames
            return first ++ " - " ++ second
      | _ => .error (.expectedExpression node)

/-- The operands of a comparison are those of any node with two operands. -/
def operands : Node → Except SourceError (Node × Node)
  | .eq left right | .sub left right | .div left right => .ok (left, right)
  | node => .error (.missingOperand node.kind)

/-- A sequence in the place of one statement stands in brackets. -/
def bracketed (node : Node) (text : String) : String :=
  match node with
  | .seq _ _ => "[" ++ text ++ "]"
  | _ => text

/-- The canonical text of a statement is one line with single blanks. A statement takes one frame,
and one more where it may need brackets; so do the arguments of a call. -/
def source : Node → Nat → Except SourceError String
  | node, 0 => .error (.outOfFrames node)
  | node, frames + 1 =>
      let single := fun (statement : Node) =>
        match frames with
        | 0 => .error (.outOfFrames statement)
        | frames + 1 => (source statement frames).map statement.bracketed
      match node with
      | .forward pixels => do return "fd " ++ (← pixels.expressionSource frames)
      | .rotate degrees => do return "rt " ++ (← degrees.expressionSource frames)
      | .setHeading degrees => do return "seth " ++ (← degrees.expressionSource frames)
      | .seq first second => do
          let head ← single first
          let tail ← source second frames
          return head ++ " " ++ tail
      | .loop times body => do
          let count ← times.expressionSource frames
          let inner ← single body
          return "repeat " ++ count ++ " " ++ inner
      | .define name params body => do
          let inner ← source body frames
          return "to " ++ name ++ paramsText params ++ " " ++ inner ++ " end"
      | .call name args =>
          match frames with
          | 0 => .error (.outOfFrames node)
          | frames + 1 => do
              let texts ← args.mapM (expressionSource · frames)
              return String.intercalate " " (name :: texts)
      | .branch condition body => do
          let (left, right) ← condition.operands
          let first ← left.expressionSource frames
          let second ← right.expressionSource frames
          let inner ← single body
          return "if " ++ first ++ " = " ++ second ++ " " ++ inner
      | .stop => .ok "stop"
      | _ => .error (.expectedStatement node)

end Node

end Turtle
