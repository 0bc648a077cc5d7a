import Turtle.Proofs.Evaluation.Rules
import Turtle.Proofs.Source.Statement

/-
This file says which faults of a program can stop its evaluation. A statement is refused for a name
that stands for no procedure, or for a node in a place where its kind does not belong, only where
the statement has such a fault.
-/

namespace Turtle

namespace Failure

/-- A call names no procedure. -/
def isUndefined : Failure → Bool
  | .runtime (.undefinedProcedure _ _) => true
  | _ => false

/-- A node stands where its kind does not belong. -/
def isMisplaced : Failure → Bool
  | .runtime (.unknownExpression _) | .runtime (.unknownComparison _)
  | .runtime (.unknownStatement _) => true
  | _ => false

theorem isUndefined_inCall (failure : Failure) (name : String) (node : Node) :
    (failure.inCall name node).isUndefined = failure.isUndefined := by
  cases failure <;> rfl

theorem isMisplaced_inCall (failure : Failure) (name : String) (node : Node) :
    (failure.inCall name node).isMisplaced = failure.isMisplaced := by
  cases failure <;> rfl

/-- The failure is no missing procedure, and no misplaced node where all kinds fit. -/
structure Spares (typed : Bool) (failure : Failure) : Prop where
  isUndefined : failure.isUndefined = false
  isMisplaced : typed = true → failure.isMisplaced = false

theorem Spares.and_left {failure : Failure} {typed : Bool} (other : Bool)
    (spares : failure.Spares typed) : failure.Spares (typed && other) :=
  ⟨spares.isUndefined, fun both => spares.isMisplaced (Bool.and_eq_true_iff.mp both).1⟩

theorem Spares.and_right {failure : Failure} {typed : Bool} (other : Bool)
    (spares : failure.Spares typed) : failure.Spares (other && typed) :=
  ⟨spares.isUndefined, fun both => spares.isMisplaced (Bool.and_eq_true_iff.mp both).2⟩

end Failure

open Fallible

variable {node : Node}

theorem liftArithmetic_spares {α : Type} (typed : Bool) (result : Except ArithmeticError α) :
    FailsOnly (Failure.Spares typed) (liftArithmetic result) := by
  cases result with
  | ok value => exact failsOnly_ok value
  | error error => exact failsOnly_error ⟨rfl, fun _ => rfl⟩

theorem evaluateExpression_spares (bindings : Bindings) (frames : Nat) (node : Node) :
    FailsOnly (Failure.Spares node.isExpression) (evaluateExpression bindings frames node) := by
  induction frames generalizing node with
  | zero => exact failsOnly_error ⟨rfl, fun _ => rfl⟩
  | succ frames inductionHypothesis =>
      cases node with
      | const value | var name => exact failsOnly_ok _
      | sub left right =>
          rw [Node.isExpression]
          have first := (inductionHypothesis left).mono fun _ =>
            Failure.Spares.and_left right.isExpression
          have second := (inductionHypothesis right).mono fun _ =>
            Failure.Spares.and_right left.isExpression
          exact first.bind fun _ => second.bind fun _ => liftArithmetic_spares _ _
      | div left right =>
          rw [Node.isExpression]
          have first := (inductionHypothesis left).mono fun _ =>
            Failure.Spares.and_left right.isExpression
          have second := (inductionHypothesis right).mono fun _ =>
            Failure.Spares.and_right left.isExpression
          refine second.bind fun divisor => ?_
          dsimp only
          split
          · exact failsOnly_error ⟨rfl, fun _ => rfl⟩
          · exact first.bind fun _ => liftArithmetic_spares _ _
      | _ => exact failsOnly_error ⟨rfl, nofun⟩

theorem evaluateComparison_spares (bindings : Bindings) (frames : Nat) (node : Node) :
    FailsOnly (Failure.Spares node.isComparison) (evaluateComparison bindings frames node) := by
  cases node with
  | eq left right =>
      have first := (evaluateExpression_spares bindings frames left).mono fun _ =>
        Failure.Spares.and_left right.isExpression
      have second := (evaluateExpression_spares bindings frames right).mono fun _ =>
        Failure.Spares.and_right left.isExpression
      exact first.bind fun _ => second.bind fun _ => failsOnly_ok _
  | _ => exact failsOnly_error ⟨rfl, nofun⟩

theorem repeatCount_spares (typed : Bool) (limits : Limits) (times : Number) (node : Node) :
    FailsOnly (Failure.Spares typed) (repeatCount limits times node) := by
  rw [repeatCount]
  split
  · exact failsOnly_ok _
  · split
    · exact (liftArithmetic_spares typed _).bind fun _ =>
        (liftArithmetic_spares typed _).bind fun _ => failsOnly_error ⟨rfl, fun _ => rfl⟩
    · exact failsOnly_ok _
  · exact failsOnly_error ⟨rfl, fun _ => rfl⟩

theorem callRefusal_spares (typed : Bool) (limit : Int) (name : String) (node : Node) :
    (callRefusal limit name node).Spares typed := by
  rcases callRefusal_cases limit name node with refused | refused <;> rw [refused] <;>
    exact ⟨rfl, fun _ => rfl⟩

/-- A call of a procedure that exists fails for the sake of its arguments. -/
theorem prepareCall_spares {limits : Limits} {frames depth : Nat} {name : String}
    {args : List Node} {state : State} {closure : Closure}
    (found : state.procedures.lookup name = some closure) (node : Node) :
    FailsOnly (Failure.Spares (args.all Node.isExpression))
      (prepareCall limits frames depth name args node state) := by
  rw [prepareCall, Procedures.find?, found]
  dsimp only [Option.map_some]
  split
  · exact failsOnly_error (callRefusal_spares ..)
  · refine FailsOnly.bind (.mapM fun arg member => ?_) fun _ => failsOnly_ok _
    have fails := evaluateExpression_spares state.bindings frames arg
    refine fails.mono fun failure spares => ⟨spares.isUndefined, fun all => ?_⟩
    exact spares.isMisplaced (List.all_eq_true.mp all arg member)

theorem turn_spares (typed : Bool) (state : State) (degrees : Number) :
    FailsOnly (Failure.Spares typed) (turn state degrees) :=
  (liftArithmetic_spares typed _).bind fun _ => failsOnly_ok _

/-- A statement is refused without a fault of its own, or it calls what is not defined. -/
theorem Refuses.spares {limits : Limits} {frames depth : Nat} {state : State} {failure : Failure}
    (refused : Refuses limits frames depth node state failure) :
    failure.Spares node.isStatement ∨ ∃ name args, node = .call name args ∧
      state.procedures.lookup name = none ∧ failure = .runtime (.undefinedProcedure name node) := by
  cases refused with
  | forward failed | setHeading failed => exact .inl (evaluateExpression_spares _ _ _ _ failed)
  | @rotate _ _ degrees _ _ failed =>
      have fails := (evaluateExpression_spares state.bindings frames degrees).bind
        (turn_spares degrees.isExpression state)
      exact .inl (fails _ failed)
  | @loop frames _ times body _ _ failed =>
      have fails := (evaluateExpression_spares state.bindings frames times).bind fun value =>
        repeatCount_spares times.isExpression limits value (.loop times body)
      exact .inl ((fails _ failed).and_left body.isStatement)
  | @branch _ _ _ body _ _ failed =>
      exact .inl ((evaluateComparison_spares _ _ _ _ failed).and_left body.isStatement)
  | @call _ _ name args _ _ failed =>
      cases found : state.procedures.lookup name with
      | some closure =>
          exact .inl ((prepareCall_spares found _ _ failed).and_right (Node.isProcedureName name))
      | none =>
          rw [prepareCall, Procedures.find?, found] at failed
          cases failed
          exact .inr ⟨name, args, rfl, found, rfl⟩
  | outOfFrames compound => exact .inl ⟨rfl, fun _ => rfl⟩
  | unknown foreign =>
      refine .inl ⟨rfl, fun typed => ?_⟩
      cases node with
      | const _ | var _ | sub _ _ | div _ _ | eq _ _ => cases typed
      | _ => exact foreign.elim

end Turtle
