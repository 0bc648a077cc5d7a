import Turtle.Node.Basic
import Turtle.Text.Lines

namespace Turtle.Node

/-- Each level of the outline is indented by two blanks. -/
def outlineLine (indent : Int) (text : String) : String :=
  Text.repeated indent "  " ++ text

def paramsText (params : List String) : String :=
  String.join (params.map (" :" ++ ·))

/-- A procedure is shown with its parameters and a call with its name. -/
def headline (node : Node) : String :=
  match node with
  | .define name params _ => s!"Function({name}{paramsText params})"
  | .call name _ => s!"Call({name})"
  | other => other.kind.name

/-- The statements along a right spine are taken in one frame, and those of a sequence in front of
it in the next. -/
def flattenWithin : Node → Nat → Option (List Node)
  | _, 0 => none
  | .seq first second, frames + 1 => do
      let front ← flattenWithin first frames
      let back ← flattenWithin second (frames + 1)
      return front ++ back
  | node, _ + 1 => some [node]
termination_by structural node => node

/-- The outline has one line for each node and none for a sequence, whose statements stand in
its place. A level takes one frame, and a sequence one more. -/
def outlineLines : Node → Nat → Int → Option (List String)
  | _, 0, _ => none
  | node, frames + 1, indent =>
      match node with
      | .const value => some [outlineLine indent s!"Constant({value.text})"]
      | .var name => some [outlineLine indent s!"Variable({name})"]
      | .seq _ _ =>
          match frames with
          | 0 => none
          | frames + 1 => do
              let statements ← node.flattenWithin frames
              let lines ← statements.mapM (outlineLines · frames indent)
              return lines.flatten
      | _ => do
          let below ← node.parts.mapM (outlineLines · frames (indent + 1))
          return outlineLine indent node.headline :: below.flatten

def outline (node : Node) (frames : Nat) (indent : Int) : Option String := do
  return String.join ((← node.outlineLines frames indent).map (· ++ "\n"))

end Turtle.Node
