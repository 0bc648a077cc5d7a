import Turtle.Proofs.Evaluation.Faults
import Turtle.Proofs.Procedures
import Turtle.Proofs.Source.Coverage
import Turtle.Run

/-
This file shows that a program read from a text has each node in a place of its kind, and that no
evaluation of such programs, one after another, meets a node of another kind.
-/

namespace Turtle

open Fallible Turtle.Derivation

/-- A program that is read is a statement. -/
theorem Program.isStatement_of_read {levels : Nat} {text filename : String} {node : Node}
    (found : Program.read levels text filename = .ok node) : node.isStatement = true := by
  obtain ⟨statements, spells, -, rfl⟩ := Program.spells_of_read found
  exact statements.isStatement_node (Token.tokenize_hasWord spells.1)

/-- A node stands where its kind has no text. -/
def SourceError.isMisplaced : SourceError → Bool
  | .expectedExpression _ | .expectedStatement _ | .missingOperand _ => true
  | _ => false

namespace Node

theorem constantSource_placed (value : Number) :
    FailsOnly (fun error => error.isMisplaced = false) (constantSource value) := by
  intro error failed
  cases value with
  | truth _ | blank | whole _ | real _ => grind [constantSource, SourceError.isMisplaced]

theorem expressionSource_placed {node : Node} (typed : node.isExpression = true) (frames : Nat) :
    FailsOnly (fun error => error.isMisplaced = false) (node.expressionSource frames) := by
  induction frames generalizing node with
  | zero =>
      rw [expressionSource]
      exact failsOnly_error rfl
  | succ frames inductionHypothesis =>
      cases node with
      | const value => exact constantSource_placed value
      | var name => exact failsOnly_ok _
      | sub left right | div left right =>
          obtain ⟨typedLeft, typedRight⟩ := Bool.and_eq_true_iff.mp typed
          rw [expressionSource]
          split
          · exact failsOnly_error rfl
          · exact (inductionHypothesis typedLeft).bind fun _ =>
              (inductionHypothesis typedRight).bind fun _ => failsOnly_ok _
      | _ => cases typed

theorem singleSource_placed {node : Node} {frames : Nat}
    (placed : ∀ fewer < frames,
      FailsOnly (fun error => error.isMisplaced = false) (node.source fewer)) :
    FailsOnly (fun error => error.isMisplaced = false) (node.singleSource frames) := by
  cases frames with
  | zero => exact failsOnly_error rfl
  | succ frames => exact (placed frames (Nat.lt_succ_self frames)).map _

/-- A statement whose text cannot be written has no node in the place of another kind. -/
theorem source_placed {node : Node} (typed : node.isStatement = true) (frames : Nat) :
    FailsOnly (fun error => error.isMisplaced = false) (node.source frames) := by
  induction frames using Nat.strongRecOn generalizing node with
  | ind frames inductionHypothesis =>
      obtain _ | frames := frames
      · rw [source]
        exact failsOnly_error rfl
      have within {inner : Node} (typed : inner.isStatement = true) :=
        inductionHypothesis frames (Nat.lt_succ_self frames) typed
      have single {inner : Node} (typed : inner.isStatement = true) :
          FailsOnly (fun error => error.isMisplaced = false) (inner.singleSource frames) :=
        singleSource_placed fun fewer below => inductionHypothesis fewer (by omega) typed
      cases node with
      | forward operand | rotate operand | setHeading operand =>
          rw [source]
          exact (expressionSource_placed typed frames).bind fun _ => failsOnly_ok _
      | seq first second =>
          obtain ⟨typedFirst, typedSecond⟩ := Bool.and_eq_true_iff.mp typed
          rw [source_seq]
          exact (single typedFirst).bind fun _ => (within typedSecond).bind fun _ => failsOnly_ok _
      | loop times body =>
          obtain ⟨typedTimes, typedBody⟩ := Bool.and_eq_true_iff.mp typed
          rw [source_loop]
          exact (expressionSource_placed typedTimes frames).bind fun _ =>
            (single typedBody).bind fun _ => failsOnly_ok _
      | define name params body =>
          rw [source]
          exact (within (Bool.and_eq_true_iff.mp typed).2).bind fun _ => failsOnly_ok _
      | call name args =>
          have typedArgs := List.all_eq_true.mp (Bool.and_eq_true_iff.mp typed).2
          obtain _ | frames := frames
          · exact failsOnly_error rfl
          rw [source]
          refine FailsOnly.bind (.mapM fun arg member => ?_) fun _ => failsOnly_ok _
          exact expressionSource_placed (typedArgs arg member) frames
      | branch condition body =>
          obtain ⟨typedCondition, typedBody⟩ := Bool.and_eq_true_iff.mp typed
          obtain ⟨left, right, rfl, typedLeft, typedRight⟩ := isComparison_eq typedCondition
          rw [source_branch]
          exact (expressionSource_placed typedLeft frames).bind fun _ =>
            (expressionSource_placed typedRight frames).bind fun _ =>
              (single typedBody).bind fun _ => failsOnly_ok _
      | stop =>
          rw [source]
          exact failsOnly_ok _
      | _ => cases typed

end Node

def Task.isStatement : Task → Bool
  | .statement node | .spine node | .rounds _ node => node.isStatement

/-- Every closure that the procedures lead to has a statement for its body. -/
def Procedures.HoldStatements (procedures : Procedures) : Prop :=
  procedures.Every fun _ closure => closure.definition.body.isStatement = true

/-- A task made of statements meets no misplaced node, and the procedures that it leaves hold
statements as those before it do. -/
theorem Evaluates.placed {limits : Limits} {frames depth : Nat} {task : Task} {state : State}
    {events : List Event} {result : Except Failure State}
    (run : Evaluates limits frames depth task state events result)
    (typed : task.isStatement = true) (bodies : state.procedures.HoldStatements) :
    (∀ failure, result = .error failure → failure.isMisplaced = false) ∧
      ∀ final, result = .ok final → final.procedures.HoldStatements := by
  induction run with
  | outOfFrames =>
      refine ⟨?_, fun _ ended => nomatch ended⟩
      rintro failure ⟨⟩
      rfl
  | refuses refused =>
      refine ⟨?_, fun _ ended => nomatch ended⟩
      rintro failure ⟨⟩
      rcases refused.spares with spares | ⟨-, -, -, -, rfl⟩
      · exact spares.isMisplaced typed
      · rfl
  | blocked _ failed =>
      refine ⟨?_, fun _ ended => nomatch ended⟩
      rintro failure ⟨⟩
      rcases failed with ⟨error, rfl⟩ | ⟨error, rfl⟩
      · rfl
      · rfl
  | moves _ _ | rotates _ _ | heads _ | stops | skips _ | done =>
      refine ⟨fun _ failed => (nomatch failed), ?_⟩
      rintro final ⟨⟩
      exact bodies
  | defines =>
      refine ⟨fun _ failed => (nomatch failed), ?_⟩
      rintro final ⟨⟩
      exact Procedures.Every.define bodies (Bool.and_eq_true_iff.mp typed).2
  | sequence _ inductionHypothesis | last _ _ inductionHypothesis
  | roundHalts _ _ inductionHypothesis =>
      exact inductionHypothesis typed bodies
  | repeats _ _ _ inductionHypothesis | branches _ _ inductionHypothesis =>
      exact inductionHypothesis (Bool.and_eq_true_iff.mp typed).2 bodies
  | @calls _ _ name _ _ _ _ _ _ prepared _ inductionHypothesis =>
      obtain ⟨closure, values, found, -, -, rfl, rfl⟩ := prepareCall_ok prepared
      have body := bodies name closure (.bound found)
      obtain ⟨fails, -⟩ := inductionHypothesis body (Procedures.Every.visible bodies found)
      constructor
      · intro failure failed
        obtain ⟨inner, cause, rfl⟩ := callResult_failed failed
        rw [Failure.isMisplaced_inCall]
        exact fails inner cause
      · intro final returned
        obtain ⟨called, -, rfl⟩ := callResult_ok returned
        exact bodies
  | spineHalts _ _ inductionHypothesis =>
      exact inductionHypothesis (Bool.and_eq_true_iff.mp typed).1 bodies
  | spineGoesOn _ _ _ firstHypothesis restHypothesis =>
      obtain ⟨front, back⟩ := Bool.and_eq_true_iff.mp typed
      exact restHypothesis back ((firstHypothesis front bodies).2 _ rfl)
  | roundGoesOn _ _ _ firstHypothesis restHypothesis =>
      exact restHypothesis typed ((firstHypothesis typed bodies).2 _ rfl)

/-- These procedures are in force after some programs read from texts, each of which began with
those in force after the programs before it. All else in the states may differ between two
programs. -/
inductive Session : Procedures → Prop
  | start : Session []
  | next {limits : Limits} {levels frames depth : Nat} {text filename : String} {node : Node}
      {state final : State} {progress after : Progress} (before : Session state.procedures)
      (found : Program.read levels text filename = .ok node)
      (ended : evaluate limits frames depth node state progress = (.ok final, after)) :
      Session final.procedures

theorem Session.holdStatements {procedures : Procedures} (session : Session procedures) :
    procedures.HoldStatements := by
  induction session with
  | start => exact .nil
  | next _ found ended inductionHypothesis =>
      obtain ⟨events, run, -⟩ := evaluates_of_evaluate ended
      exact (run.placed (Program.isStatement_of_read found) inductionHypothesis).2 _ rfl

theorem Interpreter.isMisplaced_nestingFailure (node : Node) (failure : Failure) :
    (nestingFailure node failure).isMisplaced = failure.isMisplaced := by
  cases failure <;> rfl

/-- A whole run fails as its evaluation does, or on its canvas. -/
theorem Interpreter.runTree_error {interpreter : Interpreter} {node : Node} {canvas : Canvas}
    {state : State} {failure : Failure}
    (failed : (interpreter.runTree node canvas state).result = .error (.failing failure)) :
    (∃ inner after, evaluate interpreter.limits interpreter.limits.frames 0 node state
        ⟨.blank, #[]⟩ = (.error inner, after) ∧ failure = nestingFailure node inner) ∨
      ∃ error, failure = .canvas error := by
  rw [runTree] at failed
  generalize evaluate _ _ 0 node state _ = outcome at failed ⊢
  obtain ⟨result, after⟩ := outcome
  cases result with
  | error inner =>
      cases failed
      exact .inl ⟨inner, after, rfl, rfl⟩
  | ok final =>
      dsimp only at failed
      split at failed
      · cases failed
      · next error _ _ =>
          cases failed
          exact .inr ⟨error, rfl⟩

/-- Programs read from texts have each node in its place. Such a program, evaluated after others of
its kind, never fails for a node in the place of another kind, nor does its whole run, whatever the
limits, the frames, the bindings and the cursor are. If its text cannot be written, then for another
reason. -/
theorem read_never_misplaced {procedures : Procedures} {levels : Nat} {text filename : String}
    {node : Node} (session : Session procedures)
    (found : Program.read levels text filename = .ok node) :
    (∀ limits frames depth state progress failure after, state.procedures = procedures →
      evaluate limits frames depth node state progress = (.error failure, after) →
      failure.isMisplaced = false) ∧
    (∀ (interpreter : Interpreter) canvas state failure, state.procedures = procedures →
      (interpreter.runTree node canvas state).result = .error (.failing failure) →
      failure.isMisplaced = false) ∧
    ∀ frames error, node.source frames = .error error → error.isMisplaced = false := by
  have typed := Program.isStatement_of_read found
  have fails : ∀ limits frames depth state progress failure after, state.procedures = procedures →
      evaluate limits frames depth node state progress = (.error failure, after) →
      failure.isMisplaced = false := by
    intro limits frames depth state progress failure after same failed
    obtain ⟨events, run, -⟩ := evaluates_of_evaluate failed
    exact (run.placed typed (same ▸ session.holdStatements)).1 failure rfl
  refine ⟨fails, ?_, Node.source_placed typed⟩
  intro interpreter canvas state failure same failed
  rcases Interpreter.runTree_error failed with ⟨inner, after, evaluated, rfl⟩ | ⟨error, rfl⟩
  · rw [Interpreter.isMisplaced_nestingFailure]
    exact fails _ _ _ _ _ _ _ same evaluated
  · rfl

section

open Token

/-- The body of this procedure has no value where its argument is zero. -/
def stepBody : Node :=
  .forward (.div (.var "n") (.var "n"))

theorem Program.read_stepDefinition (levels : Nat) (filename : String) :
    Program.read (levels + 2) "to step :n fd :n / :n end" filename =
      .ok (.define "step" ["n"] stepBody) := by
  have isWord : Text.isWord "n" = true := by decide
  have header := ((spells_word (by decide : Text.isWord "step" = true)).keyword "to"
    (by decide) rfl).params (by decide : ["n"].all Text.isWord = true)
  have body := ((spells_reference isWord).keyword "fd" (by decide) rfl).operator
    '/' rfl (by decide) (spells_reference isWord)
  have spells := (header.blank body).blank (spells_word (by decide : Text.isWord "end" = true))
  let statements : Statements := .last (.define ⟨"step", by decide⟩ ["n"]
    (.last (.command .forward (.single ⟨.reference "n", [.reference "n"]⟩))))
  have nesting : statements.nesting ≤ levels + 2 := by
    simp [statements, Statements.nesting, Statement.nesting]
  exact Program.read_of_derivation spells nesting filename

theorem Program.read_stepCall (levels : Nat) (filename : String) :
    Program.read (levels + 1) "step :size" filename = .ok (.call "step" [.var "size"]) := by
  have spells := (spells_word (by decide : Text.isWord "step" = true)).blank
    (spells_reference (by decide : Text.isWord "size" = true))
  let statements : Statements := .last (.call ⟨"step", by decide⟩
    [.single (.single (.reference "size"))])
  have nesting : statements.nesting ≤ levels + 1 := by
    simp [statements, Statements.nesting, Statement.nesting]
  exact Program.read_of_derivation spells nesting filename

end

/-- The second program calls what the first one defined, and fails in its body. -/
theorem read_never_misplaced_stepCall :
    ∃ state : State, Session state.procedures ∧
      Program.read (levelsWithin baseFrames) "step :size" Program.unnamed =
        .ok (.call "step" [.var "size"]) ∧
      ∃ failure after, evaluate {} 9 0 (.call "step" [.var "size"]) state ⟨.blank, #[]⟩ =
          (.error failure, after) ∧
        failure = .runtime (.divisionByZero (.div (.var "n") (.var "n"))) ∧
        failure.isMisplaced = false := by
  have session : Session (State.origin.define "step" ["n"] stepBody).procedures := by
    have ended : evaluate {} 1 0 (.define "step" ["n"] stepBody) .origin ⟨.blank, #[]⟩ =
      (.ok (State.origin.define "step" ["n"] stepBody), _) := rfl
    exact .next .start (Program.read_stepDefinition 0 Program.unnamed) ended
  have found := Program.read_stepCall 141 Program.unnamed
  obtain ⟨failure, after, failed, cause⟩ : ∃ failure after,
      evaluate {} 9 0 (.call "step" [.var "size"])
        (State.origin.define "step" ["n"] stepBody) ⟨.blank, #[]⟩ = (.error failure, after) ∧
      failure = .runtime (.divisionByZero (.div (.var "n") (.var "n"))) := ⟨_, _, rfl, rfl⟩
  refine ⟨_, session, found, failure, after, failed, cause, ?_⟩
  exact (read_never_misplaced session found).1 _ _ _ _ _ _ _ rfl failed

end Turtle
