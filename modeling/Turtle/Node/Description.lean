import Turtle.Node.Basic
import Turtle.Text.Quoted

namespace Turtle

/-- A tuple of one item keeps a comma before its closing bracket. -/
def tupleText : List String → String
  | [] => "()"
  | [item] => s!"({item},)"
  | items => "(" ++ String.intercalate ", " items ++ ")"

namespace Node

mutual

/-- The description names every part of a node. -/
def describe : Node → String
  | .const value => s!"Constant(value={value.text})"
  | .var name => s!"Variable(name={Text.quoted name})"
  | .sub left right => s!"Sub(left={describe left}, right={describe right})"
  | .div left right => s!"Div(left={describe left}, right={describe right})"
  | .eq left right => s!"Eq(left={describe left}, right={describe right})"
  | .forward pixels => s!"Forward(pixels={describe pixels})"
  | .rotate degrees => s!"Rotate(degrees={describe degrees})"
  | .setHeading degrees => s!"SetHeading(degrees={describe degrees})"
  | .seq first second => s!"Sequence(first={describe first}, second={describe second})"
  | .loop times body => s!"Repeat(times={describe times}, body={describe body})"
  | .define name params body =>
      s!"Function(name={Text.quoted name}, params={tupleText (params.map Text.quoted)}, " ++
        s!"body={describe body})"
  | .call name args => s!"Call(name={Text.quoted name}, args={tupleText (describeAll args)})"
  | .branch condition body => s!"If(condition={describe condition}, body={describe body})"
  | .stop => "Stop()"

def describeAll : List Node → List String
  | [] => []
  | node :: rest => describe node :: describeAll rest

end

/-- A level of a description takes three frames. -/
def describeWithin (node : Node) (frames : Nat) : Option String :=
  if 3 * node.height ≤ frames then some node.describe else none

end Node

end Turtle
