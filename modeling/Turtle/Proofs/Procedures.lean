import Turtle.State
import Mathlib.Tactic.Common

/-
This file says what a name stands for after a definition, and which closures a table of procedures
leads to.
-/

namespace Turtle

namespace Table

variable {α β : Type}

theorem lookup_cons {κ : Type} [BEq κ] [LawfulBEq κ] [DecidableEq κ] (entry : κ × α)
    (rest : List (κ × α)) (name : κ) :
    List.lookup name (entry :: rest) =
      if name = entry.1 then some entry.2 else rest.lookup name := by
  obtain ⟨bound, value⟩ := entry
  by_cases same : name = bound
  · simp [same]
  · simp [List.lookup_cons, same, beq_false_of_ne same]

theorem mem_of_lookup {table : Table α} {name : String} {value : α}
    (found : table.lookup name = some value) : (name, value) ∈ table := by
  induction table with
  | nil => cases found
  | cons entry rest inductionHypothesis =>
      rw [lookup_cons] at found
      split at found
      · next same =>
          cases found
          exact same ▸ List.mem_cons_self
      · exact List.mem_cons_of_mem _ (inductionHypothesis found)

/-- An insertion changes what one name stands for. -/
theorem lookup_insert (table : Table α) (name other : String) (value : α) :
    (table.insert name value).lookup other =
      if other = name then some value else table.lookup other := by
  induction table with
  | nil => rw [insert, lookup_cons]
  | cons entry rest inductionHypothesis =>
      obtain ⟨bound, old⟩ := entry
      by_cases kept : bound = name
      · by_cases same : other = name <;> simp [insert, lookup_cons, kept, same]
      · by_cases here : other = bound
        · simp [insert, here, kept]
        · simp [insert, lookup_cons, here, kept, inductionHypothesis]

/-- The values of a table may be exchanged before or after an insertion. -/
theorem filterMap_insert {exchange : α → Option β} {value : α} {exchanged : β}
    (found : exchange value = some exchanged) (name : String) {table : Table α}
    (total : ∀ entry ∈ table, ∃ other, exchange entry.2 = some other) :
    (table.insert name value).filterMap
        (fun entry => (exchange entry.2).map fun other => (entry.1, other)) =
      Table.insert name exchanged
        (table.filterMap fun entry => (exchange entry.2).map fun other => (entry.1, other)) := by
  induction table with
  | nil => simp [insert, found]
  | cons entry rest inductionHypothesis =>
      obtain ⟨bound, old⟩ := entry
      obtain ⟨⟨other, first⟩, others⟩ := List.forall_mem_cons.mp total
      by_cases kept : bound = name
      · simp [insert, kept, found, first]
      · simp [insert, kept, first, inductionHypothesis others]

end Table

namespace Procedures

variable {procedures : Procedures} {definition : Definition} {name other : String}
  {closure inner : Closure}

/-- A new closure sees what is in force after its definition. -/
theorem visible_close : (procedures.close definition).visible = procedures.define definition := by
  let others := procedures.map fun entry => (entry.1, Link.outside entry.2)
  let follow := Closure.follow? (procedures.close definition).group
  -- The group of a new closure has no other member, so that place zero is the closure itself.
  have itself : follow (.within 0) = some (procedures.close definition) := rfl
  have total : ∀ entry ∈ others, ∃ closure, follow entry.2 = some closure := by
    intro entry member
    obtain ⟨⟨name, closure⟩, -, rfl⟩ := List.mem_map.mp member
    exact ⟨closure, rfl⟩
  have kept : others.filterMap (fun entry =>
      (follow entry.2).map fun closure => (entry.1, closure)) = procedures := by
    have each : (fun entry : String × Link => (follow entry.2).map fun closure =>
        (entry.1, closure)) ∘ (fun entry => (entry.1, Link.outside entry.2)) = some := rfl
    rw [List.filterMap_map, each, List.filterMap_some]
  calc (procedures.close definition).visible
      = Table.insert definition.name (procedures.close definition)
          (others.filterMap fun entry =>
            (follow entry.2).map fun closure => (entry.1, closure)) :=
        Table.filterMap_insert itself definition.name total
    _ = procedures.define definition := by rw [kept, define]

theorem lookup_define (name : String) :
    (procedures.define definition).lookup name =
      if name = definition.name then some (procedures.close definition)
      else procedures.lookup name :=
  Table.lookup_insert procedures definition.name name _

/-- A table leads to the closures that its names stand for, and further to all that these see. -/
inductive Reaches (procedures : Procedures) : String → Closure → Prop
  | bound {name : String} {closure : Closure} (found : procedures.lookup name = some closure) :
      Reaches procedures name closure
  | seen {name other : String} {closure inner : Closure}
      (reached : Reaches procedures name closure)
      (found : closure.visible.lookup other = some inner) : Reaches procedures other inner

theorem Reaches.of_visible (found : procedures.lookup name = some closure)
    (reached : closure.visible.Reaches other inner) : procedures.Reaches other inner := by
  induction reached with
  | bound seen => exact .seen (.bound found) seen
  | seen _ seen inductionHypothesis => exact .seen inductionHypothesis seen

/-- A definition leads to one new closure and to none that was not there before. -/
theorem Reaches.of_define (reached : (procedures.define definition).Reaches name closure) :
    name = definition.name ∧ closure = procedures.close definition ∨
      procedures.Reaches name closure := by
  have old : ∀ {name : String} {closure : Closure},
      (procedures.define definition).lookup name = some closure →
      name = definition.name ∧ closure = procedures.close definition ∨
        procedures.Reaches name closure := by
    intro name closure found
    rw [lookup_define] at found
    split at found
    · next same => exact .inl ⟨same, (Option.some.inj found).symm⟩
    · exact .inr (.bound found)
  induction reached with
  | bound found => exact old found
  | seen _ found inductionHypothesis =>
      rcases inductionHypothesis with ⟨-, rfl⟩ | before
      · exact old (visible_close ▸ found)
      · exact .inr (.seen before found)

/-- Every closure that the table leads to has the property under its name. -/
def Every (holds : String → Closure → Prop) (procedures : Procedures) : Prop :=
  ∀ name closure, procedures.Reaches name closure → holds name closure

namespace Every

variable {holds weaker : String → Closure → Prop}

theorem nil : Every holds [] := by
  intro name closure reached
  have absent : ∀ name closure, ¬ Procedures.Reaches [] name closure := by
    intro name closure reached
    induction reached with
    | bound found => cases found
    | seen _ _ inductionHypothesis => exact inductionHypothesis
  exact absurd reached (absent name closure)

theorem mono (every : procedures.Every holds)
    (implies : ∀ name closure, holds name closure → weaker name closure) :
    procedures.Every weaker :=
  fun name closure reached => implies name closure (every name closure reached)

/-- A closure found in the table has the property, and so has all that it sees. -/
theorem visible (every : procedures.Every holds) (found : procedures.lookup name = some closure) :
    closure.visible.Every holds :=
  fun other inner reached => every other inner (reached.of_visible found)

/-- A definition keeps the property when the new closure has it. -/
theorem define (every : procedures.Every holds)
    (new : holds definition.name (procedures.close definition)) :
    (procedures.define definition).Every holds := by
  intro name closure reached
  rcases reached.of_define with ⟨rfl, rfl⟩ | before
  · exact new
  · exact every name closure before

end Every

end Procedures

end Turtle
