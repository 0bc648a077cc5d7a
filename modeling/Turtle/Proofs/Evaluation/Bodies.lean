import Turtle.Proofs.Evaluation.Rules
import Turtle.Proofs.Procedures

/-
This file collects the bodies that an evaluation can ever enter. There are finitely many of them:
those of the closures in the state, and those of the definitions in these and in the statement.
-/

namespace Turtle

/-- The bodies of the definitions in a statement include those inside of other bodies. -/
def Node.bodies : Node → List Node
  | .seq first second => first.bodies ++ second.bodies
  | .loop _ body | .branch _ body => body.bodies
  | .define _ _ body => body :: body.bodies
  | _ => []

def Task.bodies : Task → List Node
  | .statement node | .spine node | .rounds _ node => node.bodies

mutual

def Closure.bodies : Closure → List Node
  | .mk earlier own later => Member.allBodies earlier ++ own.bodies ++ Member.allBodies later

def Member.bodies : Member → List Node
  | .mk definition scope => (definition.body :: definition.body.bodies) ++ Link.allBodies scope

def Link.bodies : Link → List Node
  | .within _ => []
  | .outside closure => closure.bodies

def Member.allBodies : List Member → List Node
  | [] => []
  | member :: rest => member.bodies ++ Member.allBodies rest

def Link.allBodies : Table Link → List Node
  | [] => []
  | (_, link) :: rest => link.bodies ++ Link.allBodies rest

end

def Procedures.bodies (procedures : Procedures) : List Node :=
  procedures.flatMap fun entry => entry.2.bodies

theorem Member.allBodies_eq (members : List Member) :
    Member.allBodies members = members.flatMap Member.bodies := by
  induction members with
  | nil => rw [Member.allBodies, List.flatMap_nil]
  | cons member rest inductionHypothesis =>
      rw [Member.allBodies, inductionHypothesis, List.flatMap_cons]

theorem Link.allBodies_eq (scope : Table Link) :
    Link.allBodies scope = scope.flatMap fun entry => entry.2.bodies := by
  induction scope with
  | nil => rw [Link.allBodies, List.flatMap_nil]
  | cons entry rest inductionHypothesis =>
      rw [Link.allBodies, inductionHypothesis, List.flatMap_cons]

theorem Member.bodies_eq (member : Member) :
    member.bodies = (member.definition.body :: member.definition.body.bodies) ++
      member.scope.flatMap fun entry => entry.2.bodies := by
  obtain ⟨definition, scope⟩ := member
  rw [Member.bodies, Link.allBodies_eq]
  rfl

namespace Closure

variable {closure inner : Closure}

/-- The members of a group have all their bodies in common. -/
theorem bodies_eq (closure : Closure) : closure.bodies = closure.group.flatMap Member.bodies := by
  obtain ⟨earlier, own, later⟩ := closure
  rw [Closure.bodies, Member.allBodies_eq, Member.allBodies_eq, Closure.group,
    List.flatMap_append, List.flatMap_cons, List.append_assoc]

theorem own_mem_group (closure : Closure) : closure.own ∈ closure.group := by
  obtain ⟨earlier, member, later⟩ := closure
  exact List.mem_append_right earlier List.mem_cons_self

theorem own_bodies_subset (closure : Closure) : closure.own.bodies ⊆ closure.bodies := by
  intro body member
  rw [bodies_eq]
  exact List.mem_flatMap.mpr ⟨closure.own, closure.own_mem_group, member⟩

theorem group_of_atPlace? {group : List Member} {place : Nat}
    (found : atPlace? group place = some closure) : closure.group = group := by
  obtain ⟨member, here, rfl⟩ := Option.map_eq_some_iff.mp found
  obtain ⟨inside, rfl⟩ := List.getElem?_eq_some_iff.mp here
  rw [Closure.group, ← List.drop_eq_getElem_cons inside, List.take_append_drop]

/-- What a closure sees has no bodies but those of the closure. -/
theorem visible_bodies_subset {name : String} (found : (name, inner) ∈ closure.visible) :
    inner.bodies ⊆ closure.bodies := by
  obtain ⟨⟨name, link⟩, entry, followed⟩ := List.mem_filterMap.mp found
  obtain ⟨seen, follows, same⟩ := Option.map_eq_some_iff.mp followed
  cases same
  cases link with
  | within place =>
      rw [bodies_eq, bodies_eq closure, group_of_atPlace? follows]
      exact List.Subset.refl _
  | outside closure' =>
      cases follows
      intro body member
      apply closure.own_bodies_subset
      rw [Member.bodies_eq]
      refine List.mem_append_right _ (List.mem_flatMap.mpr ⟨_, entry, ?_⟩)
      rwa [Link.bodies]

/-- The body of the closure and all bodies in it are among the given ones. -/
def Within (bodies : List Node) (closure : Closure) : Prop :=
  closure.definition.body ∈ bodies ∧ closure.definition.body.bodies ⊆ bodies

theorem within_bodies (closure : Closure) : closure.Within closure.bodies := by
  have included : closure.definition.body :: closure.definition.body.bodies ⊆ closure.bodies := by
    refine List.Subset.trans ?_ closure.own_bodies_subset
    rw [Member.bodies_eq]
    exact List.subset_append_left _ _
  exact List.cons_subset.mp included

theorem Within.mono {bodies others : List Node} (within : closure.Within bodies)
    (included : bodies ⊆ others) : closure.Within others :=
  ⟨included within.1, List.Subset.trans within.2 included⟩

end Closure

namespace Procedures

variable {procedures : Procedures} {name : String} {closure : Closure}

theorem bodies_subset_of_lookup (found : procedures.lookup name = some closure) :
    closure.bodies ⊆ procedures.bodies := by
  intro body member
  exact List.mem_flatMap.mpr ⟨(name, closure), Table.mem_of_lookup found, member⟩

theorem Reaches.bodies_subset (reached : procedures.Reaches name closure) :
    closure.bodies ⊆ procedures.bodies := by
  induction reached with
  | bound found => exact bodies_subset_of_lookup found
  | seen _ found inductionHypothesis =>
      have inner := Closure.visible_bodies_subset (Table.mem_of_lookup found)
      exact List.Subset.trans inner inductionHypothesis

/-- All bodies that the procedures lead to are among the given ones. -/
def Within (bodies : List Node) (procedures : Procedures) : Prop :=
  procedures.Every fun _ closure => closure.Within bodies

theorem within_of_subset {bodies : List Node} (included : procedures.bodies ⊆ bodies) :
    procedures.Within bodies :=
  fun _ closure reached =>
    closure.within_bodies.mono (List.Subset.trans reached.bodies_subset included)

end Procedures

/-- A call enters one of the given bodies, and what this sees leads to no others. -/
theorem prepareCall_within {limits : Limits} {frames depth : Nat} {name : String}
    {args : List Node} {node : Node} {state entered : State} {definition : Definition}
    {bodies : List Node}
    (prepared : prepareCall limits frames depth name args node state = .ok (definition, entered))
    (within : state.procedures.Within bodies) :
    (depth : Int) < limits.maxCallDepth ∧ definition.body ∈ bodies ∧
      definition.body.bodies ⊆ bodies ∧ entered.procedures.Within bodies := by
  obtain ⟨closure, values, found, below, -, rfl, rfl⟩ := prepareCall_ok prepared
  obtain ⟨member, inner⟩ := within name closure (.bound found)
  exact ⟨below, member, inner, Procedures.Every.visible within found⟩

/-- An evaluation adds no bodies to those of the state and of the task. -/
theorem Evaluates.within {limits : Limits} {frames depth : Nat} {task : Task}
    {state final : State} {events : List Event} {result : Except Failure State}
    {bodies : List Node} (run : Evaluates limits frames depth task state events result)
    (included : task.bodies ⊆ bodies) (within : state.procedures.Within bodies)
    (ended : result = .ok final) : final.procedures.Within bodies := by
  induction run generalizing final with
  | outOfFrames | refuses _ | blocked _ _ => cases ended
  | moves _ _ | rotates _ _ | heads _ | stops | skips _ | done =>
      cases ended
      exact within
  | defines =>
      cases ended
      exact Procedures.Every.define within (List.cons_subset.mp included)
  | calls _ _ _ =>
      obtain ⟨called, -, rfl⟩ := callResult_ok ended
      exact within
  | sequence _ inductionHypothesis | repeats _ _ _ inductionHypothesis
  | branches _ _ inductionHypothesis | last _ _ inductionHypothesis
  | roundHalts _ _ inductionHypothesis =>
      exact inductionHypothesis included within ended
  | spineHalts _ _ inductionHypothesis =>
      exact inductionHypothesis (List.append_subset.mp included).1 within ended
  | spineGoesOn _ _ _ firstHypothesis restHypothesis =>
      obtain ⟨first, second⟩ := List.append_subset.mp included
      exact restHypothesis second (firstHypothesis first within rfl) ended
  | roundGoesOn _ _ _ firstHypothesis restHypothesis =>
      exact restHypothesis included (firstHypothesis included within rfl) ended

/-- These are the calls that may still be opened from a depth on. -/
def Limits.callsLeft (limits : Limits) (depth : Nat) : Nat :=
  (limits.maxCallDepth - depth).toNat

theorem Limits.callsLeft_of_lt {limits : Limits} {depth : Nat}
    (below : (depth : Int) < limits.maxCallDepth) :
    limits.callsLeft depth = limits.callsLeft (depth + 1) + 1 := by
  simp only [callsLeft]
  omega

/-- This is what a body can take when so many calls may be opened. The measure says what one body
takes, given what each body that it calls can take. -/
def room (measure : Nat → Node → Nat) (bodies : List Node) : Nat → Nat
  | 0 => 0
  | calls + 1 => (bodies.map (measure (room measure bodies calls))).max?.getD 0

/-- A body that is called has the room of the caller's calls. -/
theorem measure_le_room (measure : Nat → Node → Nat) {limits : Limits} {depth : Nat}
    {bodies : List Node} {body : Node} (below : (depth : Int) < limits.maxCallDepth)
    (member : body ∈ bodies) :
    measure (room measure bodies (limits.callsLeft (depth + 1))) body ≤
      room measure bodies (limits.callsLeft depth) := by
  rw [Limits.callsLeft_of_lt below, room]
  exact List.le_max?_getD_of_mem (List.mem_map_of_mem member)

end Turtle
