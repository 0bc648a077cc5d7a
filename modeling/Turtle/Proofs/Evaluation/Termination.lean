import Turtle.Proofs.Evaluation.Budget
import Turtle.Proofs.Repetition

/-
This file shows that every evaluation ends by its limits. It bounds the events of an evaluation and
the calls that are open at once, and with enough frames the evaluation ends in a state or in an
error of its own.
-/

namespace Turtle

/-- These are the events that a statement can cause, if a repetition has at most the given number of
rounds and a called body causes at most the given number of events. -/
def Node.work (rounds called : Nat) : Node → Nat
  | .forward _ => 2
  | .seq first second => first.work rounds called + second.work rounds called + 1
  | .loop _ body => rounds * body.work rounds called + 1
  | .branch _ body => body.work rounds called + 1
  | .call _ _ => called + 3
  | _ => 1

def Task.work (rounds called : Nat) : Task → Nat
  | .statement node => node.work rounds called
  | .spine (.seq first second) => first.work rounds called + second.work rounds called
  | .spine node => node.work rounds called
  | .rounds count node => count * node.work rounds called

theorem Node.work_pos (rounds called : Nat) (node : Node) : 0 < node.work rounds called := by
  cases node <;> simp [work]

theorem Task.work_spine_le (rounds called : Nat) (node : Node) :
    Task.work rounds called (.spine node) ≤ node.work rounds called := by
  cases node with
  | seq first second => exact Nat.le_succ _
  | _ => exact Nat.le_refl _

/-- The repetition limit and the call limit bound the events of an evaluation. -/
theorem Evaluates.length_le {limits : Limits} {most : Int} {frames depth : Nat} {task : Task}
    {state : State} {events : List Event} {result : Except Failure State} {bodies : List Node}
    (limited : limits.maxRepeat = .atMost most)
    (run : Evaluates limits frames depth task state events result)
    (included : task.bodies ⊆ bodies) (within : state.procedures.Within bodies) :
    events.length ≤
      task.work most.toNat (room (Node.work most.toNat) bodies (limits.callsLeft depth)) := by
  induction run with
  | outOfFrames => exact Nat.zero_le _
  | refuses _ => exact Node.work_pos _ _ _
  | moves _ _ | blocked _ _ => exact Nat.le_refl _
  | rotates _ _ | heads _ | defines | stops => exact Nat.le_refl _
  | skips _ => exact Node.work_pos _ _ _
  | sequence _ inductionHypothesis =>
      have inner := inductionHypothesis included within
      exact Nat.succ_le_succ inner
  | repeats _ counted _ inductionHypothesis =>
      have inner := inductionHypothesis included within
      have fewer := repeatCount_le limited counted
      exact Nat.succ_le_succ (inner.trans (Nat.mul_le_mul_right _ fewer))
  | branches _ _ inductionHypothesis =>
      have inner := inductionHypothesis included within
      exact Nat.succ_le_succ inner
  | calls prepared _ inductionHypothesis =>
      obtain ⟨below, member, inside, seen⟩ := prepareCall_within prepared within
      have inner := inductionHypothesis inside seen
      have called := measure_le_room (Node.work most.toNat) below member
      simp only [Task.work, Node.work, List.length_cons, List.length_append, List.length_nil]
        at inner ⊢
      omega
  | @last _ _ node _ _ _ single _ inductionHypothesis =>
      have inner := inductionHypothesis included within
      cases node with
      | seq first second => exact absurd rfl (single first second)
      | _ => exact inner
  | spineHalts _ _ inductionHypothesis =>
      have inner := inductionHypothesis (List.append_subset.mp included).1 within
      exact inner.trans (Nat.le_add_right _ _)
  | spineGoesOn run _ _ firstHypothesis restHypothesis =>
      obtain ⟨before, behind⟩ := List.append_subset.mp included
      have first := firstHypothesis before within
      have rest := restHypothesis behind (run.within before within rfl)
      rw [List.length_append]
      exact Nat.add_le_add first (rest.trans (Task.work_spine_le _ _ _))
  | done => exact Nat.zero_le _
  | roundHalts _ _ inductionHypothesis =>
      have inner := inductionHypothesis included within
      rw [Task.work, Nat.succ_mul]
      exact inner.trans (Nat.le_add_left _ _)
  | roundGoesOn run _ _ firstHypothesis restHypothesis =>
      have first := firstHypothesis included within
      have rest := restHypothesis included (run.within included within rfl)
      rw [List.length_append, Task.work, Nat.succ_mul, Nat.add_comm]
      exact Nat.add_le_add rest first

/-- An activation opens a call, and its end closes one. -/
def Event.opens : Event → Int
  | .activated _ _ => 1
  | .finished _ => -1
  | .evaluating _ _ | .moved _ => 0

/-- These are the calls that the events have left open. -/
def openCalls (events : List Event) : Int :=
  (events.map Event.opens).sum

@[simp]
theorem openCalls_nil : openCalls [] = 0 :=
  rfl

@[simp]
theorem openCalls_cons (event : Event) (events : List Event) :
    openCalls (event :: events) = event.opens + openCalls events :=
  List.sum_cons

@[simp]
theorem openCalls_append (events more : List Event) :
    openCalls (events ++ more) = openCalls events + openCalls more := by
  simp [openCalls]

/-- The events close all calls that they open and no others, and at most the given number of calls
is open on the way. -/
structure Nested (most : Nat) (events : List Event) : Prop where
  closed : openCalls events = 0
  bounded : ∀ before, before <+: events → 0 ≤ openCalls before ∧ openCalls before ≤ most

namespace Nested

variable {most : Nat} {events more : List Event}

theorem nil : Nested most [] := by
  refine ⟨rfl, ?_⟩
  intro before start
  rw [List.prefix_nil.mp start]
  simp

theorem append (first : Nested most events) (second : Nested most more) :
    Nested most (events ++ more) := by
  refine ⟨by rw [openCalls_append, first.closed, second.closed, Int.add_zero], ?_⟩
  intro before start
  rcases List.prefix_or_prefix_of_prefix start (List.prefix_append events more) with
    short | ⟨rest, rfl⟩
  · exact first.bounded before short
  · rw [openCalls_append, first.closed, Int.zero_add]
    exact second.bounded rest ((List.prefix_append_right_inj events).mp start)

theorem cons {event : Event} (nested : Nested most events) (neutral : event.opens = 0) :
    Nested most (event :: events) := by
  refine ⟨by rw [openCalls_cons, neutral, nested.closed, Int.add_zero], ?_⟩
  intro before start
  rcases List.prefix_cons_iff.mp start with rfl | ⟨rest, rfl, shorter⟩
  · simp
  · rw [openCalls_cons, neutral, Int.zero_add]
    exact nested.bounded rest shorter

/-- A call is open as long as its body runs. -/
theorem call (nested : Nested most events) (name : String) (depth : Nat) :
    Nested (most + 1) (.activated name depth :: (events ++ [.finished name])) := by
  refine ⟨by simp [Event.opens, nested.closed], ?_⟩
  intro before start
  rcases List.prefix_cons_iff.mp start with rfl | ⟨rest, rfl, shorter⟩
  · exact ⟨Int.le_refl 0, Int.natCast_nonneg _⟩
  · rw [openCalls_cons, Event.opens]
    rcases List.prefix_concat_iff.mp shorter with rfl | inside
    · have whole : openCalls (events ++ [.finished name]) = -1 := by
        simp [Event.opens, nested.closed]
      omega
    · have within := nested.bounded rest inside
      omega

end Nested

/-- The calls of an evaluation are nested as deep as the call limit admits from its depth on. -/
theorem Evaluates.nested {limits : Limits} {frames depth : Nat} {task : Task} {state : State}
    {events : List Event} {result : Except Failure State}
    (run : Evaluates limits frames depth task state events result) :
    Nested (limits.callsLeft depth) events := by
  induction run with
  | outOfFrames | done => exact .nil
  | refuses _ | rotates _ _ | heads _ | defines | stops | skips _ => exact Nested.nil.cons rfl
  | moves _ _ | blocked _ _ => exact (Nested.nil.cons rfl).cons rfl
  | sequence _ inductionHypothesis | repeats _ _ _ inductionHypothesis
  | branches _ _ inductionHypothesis =>
      exact inductionHypothesis.cons rfl
  | calls prepared _ inductionHypothesis =>
      obtain ⟨closure, values, -, below, -⟩ := prepareCall_ok prepared
      rw [Limits.callsLeft_of_lt below]
      exact (inductionHypothesis.call _ _).cons rfl
  | last _ _ inductionHypothesis | spineHalts _ _ inductionHypothesis
  | roundHalts _ _ inductionHypothesis =>
      exact inductionHypothesis
  | spineGoesOn _ _ _ firstHypothesis restHypothesis
  | roundGoesOn _ _ _ firstHypothesis restHypothesis =>
      exact firstHypothesis.append restHypothesis

/-- Every evaluation ends by its limits. Whatever procedures its state leads to, a statement whose
repetitions and calls are limited has some number of frames from which on it ends with one and the
same outcome, and this is a state or an error other than a shortage of frames. With any frames it
causes at most a fixed number of events, and no more calls are ever open at once than the call limit
admits. -/
theorem evaluate_terminates {limits : Limits} {most : Int}
    (limited : limits.maxRepeat = .atMost most) (depth : Nat) (node : Node) (state : State) :
    ∃ frames steps, ∀ progress,
      (∃ result after, Finished result ∧ ∀ more, frames ≤ more →
        evaluate limits more depth node state progress = (result, after)) ∧
      ∀ budget, ∃ events,
        (evaluate limits budget depth node state progress).2.events.toList =
          progress.events.toList ++ events ∧
        events.length ≤ steps ∧
        ∀ before, before <+: events →
          openCalls before ≤ max 0 (limits.maxCallDepth - depth) := by
  -- No body outside of this list is ever entered, whatever is defined on the way.
  let bodies := node.bodies ++ state.procedures.bodies
  have included : node.bodies ⊆ bodies := List.subset_append_left _ _
  have within : state.procedures.Within bodies :=
    Procedures.within_of_subset (List.subset_append_right _ _)
  let frames := node.frames (room Node.frames bodies (limits.callsLeft depth))
  let steps := node.work most.toNat (room (Node.work most.toNat) bodies (limits.callsLeft depth))
  refine ⟨frames, steps, fun progress => ⟨?_, fun budget => ?_⟩⟩
  · obtain ⟨events, run, -⟩ := evaluate_logs limits frames depth node state progress
    have finished := run.finished included within (Nat.le_refl frames)
    exact ⟨_, _, finished, fun more enough =>
      evaluate_steady limits enough depth node state progress finished⟩
  · obtain ⟨events, run, added⟩ := evaluate_logs limits budget depth node state progress
    refine ⟨events, added, run.length_le limited included within, fun before start => ?_⟩
    have bounded := (run.nested.bounded before start).2
    rwa [Limits.callsLeft, Int.toNat_eq_max, Int.max_comm] at bounded

/-- Two procedures see each other and themselves, and each calls the other one. -/
def pingPong : State :=
  let scope := [("ping", Link.within 0), ("pong", Link.within 1)]
  let ping := Member.mk ⟨"ping", [], .call "pong" [], []⟩ scope
  let pong := Member.mk ⟨"pong", [], .call "ping" [], []⟩ scope
  { State.origin with
    procedures := [("ping", .mk [] ping [pong]), ("pong", .mk [ping] pong [])] }

theorem evaluate_terminates_pingPong :
    (⟨.atMost 5, 3⟩ : Limits).maxRepeat = .atMost 5 ∧
    (pingPong.procedures.lookup "ping").map (fun ping => ping.visible.map Prod.fst) =
      some ["ping", "pong"] ∧
    ∃ frames result after, Finished result ∧
      (∀ more, frames ≤ more →
        evaluate ⟨.atMost 5, 3⟩ more 0 (.loop (.const (.whole 5)) (.call "ping" [])) pingPong
          ⟨.direct (.recording #[]), #[]⟩ = (result, after)) ∧
      ∀ before, before <+: after.events.toList → openCalls before ≤ 3 := by
  have limited : (⟨.atMost 5, 3⟩ : Limits).maxRepeat = .atMost 5 := rfl
  obtain ⟨frames, steps, ends⟩ := evaluate_terminates limited 0
    (.loop (.const (.whole 5)) (.call "ping" [])) pingPong
  obtain ⟨⟨result, after, finished, same⟩, bounded⟩ := ends ⟨.direct (.recording #[]), #[]⟩
  obtain ⟨events, added, -, nested⟩ := bounded frames
  rw [same frames (Nat.le_refl frames), List.nil_append] at added
  exact ⟨limited, rfl, frames, result, after, finished, same, added ▸ nested⟩

end Turtle
