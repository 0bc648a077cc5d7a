import Turtle.Node.Basic

namespace Turtle

structure Point where
  x : Number
  y : Number

structure Segment where
  start : Point
  finish : Point

/-- A table gives values to names, each name at most once. -/
abbrev Table (α : Type) : Type :=
  List (String × α)

/-- A bound name keeps its place, and a new name comes last. -/
def Table.insert {α : Type} (name : String) (value : α) : Table α → Table α
  | [] => [(name, value)]
  | (bound, old) :: rest =>
      if bound == name then (bound, value) :: rest else (bound, old) :: insert name value rest

abbrev Bindings : Type :=
  Table Number

namespace Bindings

/-- A name without a binding reads as zero. -/
def read (bindings : Bindings) (name : String) : Number :=
  (bindings.lookup name).getD (.whole 0)

/-- The pairs are bound from left to right, so the last of equal names wins. -/
def overlay (bindings : Bindings) (pairs : List (String × Number)) : Bindings :=
  pairs.foldl (fun current pair => current.insert pair.1 pair.2) bindings

end Bindings

/-- A definition keeps the bindings that were in force where it was evaluated. -/
structure Definition where
  name : String
  params : List String
  body : Node
  bindings : Bindings

mutual

/-- A closure is a definition together with the procedures that it sees. Definitions that see one
another stand in one group, and the closure is one member of its group. -/
inductive Closure where
  | mk (earlier : List Member) (own : Member) (later : List Member)

/-- A member of a group is a definition with the names that it sees. -/
inductive Member where
  | mk (definition : Definition) (scope : List (String × Link))

/-- A name stands for a member of the same group, given by its place, or for a closure outside. -/
inductive Link where
  | within (place : Nat)
  | outside (closure : Closure)

end

abbrev Procedures : Type :=
  Table Closure

namespace Member

def definition : Member → Definition
  | .mk definition _ => definition

def scope : Member → Table Link
  | .mk _ scope => scope

end Member

namespace Closure

def own : Closure → Member
  | .mk _ own _ => own

def group : Closure → List Member
  | .mk earlier own later => earlier ++ own :: later

def definition (closure : Closure) : Definition :=
  closure.own.definition

/-- Each member of a group is a closure of its own. -/
def atPlace? (group : List Member) (place : Nat) : Option Closure :=
  group[place]?.map fun member => .mk (group.take place) member (group.drop (place + 1))

def follow? (group : List Member) : Link → Option Closure
  | .within place => atPlace? group place
  | .outside closure => some closure

/-- A name whose place is not in the group is not visible. -/
def visible (closure : Closure) : Procedures :=
  closure.own.scope.filterMap fun (name, link) =>
    (follow? closure.group link).map fun seen => (name, seen)

end Closure

namespace Procedures

/-- A procedure is found together with the procedures that it sees. -/
def find? (procedures : Procedures) (name : String) : Option (Definition × Procedures) :=
  (procedures.lookup name).map fun closure => (closure.definition, closure.visible)

/-- A new definition sees itself under its name, and under all other names what is in force. -/
def close (procedures : Procedures) (definition : Definition) : Closure :=
  let others := procedures.map fun (name, closure) => (name, Link.outside closure)
  .mk [] (.mk definition (Table.insert definition.name (.within 0) others)) []

def define (procedures : Procedures) (definition : Definition) : Procedures :=
  procedures.insert definition.name (procedures.close definition)

def names (procedures : Procedures) : List String :=
  (procedures.map Prod.fst).eraseDups

end Procedures

def Definition.describe (definition : Definition) : String :=
  let params := String.join (definition.params.map (" :" ++ ·))
  s!"<procedure {definition.name}{params}>"

/-- The state is a cursor with a heading, the bindings and procedures in force, and the mark that
a stop leaves. -/
structure State where
  position : Point
  heading : Number
  bindings : Bindings
  procedures : Procedures
  terminated : Bool

namespace State

def initial (position : Point) (heading : Number) : State :=
  ⟨position, heading, [], [], false⟩

/-- The default state stands at the origin and faces up. -/
def origin : State :=
  initial ⟨.whole 0, .whole 0⟩ (.whole 0)

/-- One degree in radians is rounded once. -/
def degree : Float :=
  3.141592653589793 / 180.0

/-- The cursor moves along its heading, and heading zero points up the page. -/
def advance (state : State) (pixels : Number) : Except ArithmeticError Point := do
  let radians := (← state.heading.toDouble) * degree
  if radians.isInf then throw .outsideDomain
  let distance ← pixels.toDouble
  let x ← state.position.x.add (.real (distance * radians.sin))
  let y ← state.position.y.sub (.real (distance * radians.cos))
  return ⟨x, y⟩

def define (state : State) (name : String) (params : List String) (body : Node) : State :=
  { state with procedures := state.procedures.define ⟨name, params, body, state.bindings⟩ }

/-- A body runs with the bindings of its definition under its arguments; extra arguments are
dropped. -/
def enter (state : State) (definition : Definition) (visible : Procedures)
    (values : List Number) : State :=
  { state with
    bindings := definition.bindings.overlay (definition.params.zip values)
    procedures := visible }

/-- The caller keeps its own bindings and procedures. -/
def leave (caller called : State) : State :=
  { called with bindings := caller.bindings, procedures := caller.procedures }

end State

end Turtle
