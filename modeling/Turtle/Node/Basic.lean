import Turtle.Number.Basic

namespace Turtle

/-- A node is an expression, a comparison or a statement; any node may stand anywhere. -/
inductive Node where
  | const (value : Number)
  | var (name : String)
  | sub (left right : Node)
  | div (left right : Node)
  | eq (left right : Node)
  | forward (pixels : Node)
  | rotate (degrees : Node)
  | setHeading (degrees : Node)
  | seq (first second : Node)
  | loop (times body : Node)
  | define (name : String) (params : List String) (body : Node)
  | call (name : String) (args : List Node)
  | branch (condition body : Node)
  | stop

/-- The kind of a node forgets its parts. -/
inductive Kind where
  | const | var | sub | div | eq | forward | rotate | setHeading | seq | loop | define | call
  | branch | stop
  deriving DecidableEq

namespace Kind

def name : Kind → String
  | .const => "Constant"
  | .var => "Variable"
  | .sub => "Sub"
  | .div => "Div"
  | .eq => "Eq"
  | .forward => "Forward"
  | .rotate => "Rotate"
  | .setHeading => "SetHeading"
  | .seq => "Sequence"
  | .loop => "Repeat"
  | .define => "Function"
  | .call => "Call"
  | .branch => "If"
  | .stop => "Stop"

def all : List Kind :=
  [.const, .var, .sub, .div, .eq, .forward, .rotate, .setHeading, .seq, .loop, .define, .call,
    .branch, .stop]

def ofName? (name : String) : Option Kind :=
  all.find? fun kind => kind.name == name

end Kind

namespace Node

instance : Inhabited Node := ⟨.stop⟩

def kind : Node → Kind
  | .const _ => .const
  | .var _ => .var
  | .sub _ _ => .sub
  | .div _ _ => .div
  | .eq _ _ => .eq
  | .forward _ => .forward
  | .rotate _ => .rotate
  | .setHeading _ => .setHeading
  | .seq _ _ => .seq
  | .loop _ _ => .loop
  | .define _ _ _ => .define
  | .call _ _ => .call
  | .branch _ _ => .branch
  | .stop => .stop

/-- The statements of nested sequences stand in one list, in order. -/
def flatten : Node → List Node
  | .seq first second => flatten first ++ flatten second
  | node => [node]

/-- One or more statements become a sequence nested to the right. -/
def sequenceOf? : List Node → Option Node
  | [] => none
  | [statement] => some statement
  | statement :: rest => (sequenceOf? rest).map (.seq statement)

def emptySequenceMessage : String :=
  "sequence_of needs at least one statement"

/-- The parts of a node stand in the order of its fields. -/
def parts : Node → List Node
  | .const _ | .var _ | .stop => []
  | .sub left right | .div left right | .eq left right => [left, right]
  | .forward operand | .rotate operand | .setHeading operand => [operand]
  | .seq first second => [first, second]
  | .loop times body => [times, body]
  | .define _ _ body => [body]
  | .call _ args => args
  | .branch condition body => [condition, body]

/-- The walk visits a node before its parts, and the parts in order. Each level of the tree takes
one frame, and a walk that runs out of frames gives nothing. -/
def walk : Node → Nat → Option (List Node)
  | _, 0 => none
  | node, frames + 1 => do
      let below ← node.parts.mapM (walk · frames)
      return node :: below.flatten

def ofKind (node : Node) (kind : Kind) (frames : Nat) : Option (List Node) := do
  return (← node.walk frames).filter fun part => part.kind == kind

def definedName? : Node → Option String
  | .define name _ _ => some name
  | _ => none

/-- The procedures of a program are listed where they are defined, with repetitions. -/
def procedureNames (node : Node) (frames : Nat) : Option (List String) := do
  return (← node.walk frames).filterMap definedName?

mutual

/-- The levels of a tree are those of its deepest part and one more. -/
def height : Node → Nat
  | .const _ | .var _ | .stop => 1
  | .sub left right | .div left right | .eq left right => 1 + max (height left) (height right)
  | .forward operand | .rotate operand | .setHeading operand => 1 + height operand
  | .seq first second => 1 + max (height first) (height second)
  | .loop times body => 1 + max (height times) (height body)
  | .define _ _ body => 1 + height body
  | .call _ args => 1 + heightAll args
  | .branch condition body => 1 + max (height condition) (height body)

def heightAll : List Node → Nat
  | [] => 0
  | node :: rest => max (height node) (heightAll rest)

end

mutual

/-- Two trees are the same when they agree up to the form of their numbers. -/
def same : Node → Node → Bool
  | .const first, .const second => first.equals second
  | .var first, .var second => first == second
  | .sub left right, .sub left' right' => same left left' && same right right'
  | .div left right, .div left' right' => same left left' && same right right'
  | .eq left right, .eq left' right' => same left left' && same right right'
  | .forward pixels, .forward pixels' => same pixels pixels'
  | .rotate degrees, .rotate degrees' => same degrees degrees'
  | .setHeading degrees, .setHeading degrees' => same degrees degrees'
  | .seq first second, .seq first' second' => same first first' && same second second'
  | .loop times body, .loop times' body' => same times times' && same body body'
  | .define name params body, .define name' params' body' =>
      name == name' && params == params' && same body body'
  | .call name args, .call name' args' => name == name' && sameAll args args'
  | .branch condition body, .branch condition' body' =>
      same condition condition' && same body body'
  | .stop, .stop => true
  | _, _ => false

def sameAll : List Node → List Node → Bool
  | [], [] => true
  | node :: rest, node' :: rest' => same node node' && sameAll rest rest'
  | _, _ => false

end

end Node

end Turtle
