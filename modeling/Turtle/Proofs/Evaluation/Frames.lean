import Turtle.Proofs.Evaluation.Rules

/-
This file shows that frames only cut an evaluation off: what ends within some frames ends in the
same way within more of them.
-/

namespace Turtle

/-- The frames were used up, which is no fault of the program. -/
def Failure.isShortage : Failure → Bool
  | .outOfFrames => true
  | .runtime error => error.isFrameError
  | .arithmetic _ | .canvas _ => false

/-- A refused call is no shortage of frames. -/
theorem isShortage_callRefusal (limit : Int) (name : String) (node : Node) :
    (callRefusal limit name node).isShortage = false := by
  rcases callRefusal_cases limit name node with refused | refused <;> rw [refused] <;> rfl

section

variable {α β : Type}

/-- The result does not come from a shortage of frames. -/
def Finished (result : Except Failure α) : Prop :=
  ∀ failure, result = .error failure → failure.isShortage = false

@[simp]
theorem finished_ok (value : α) : Finished (.ok value) :=
  nofun

@[simp]
theorem finished_error {failure : Failure} :
    Finished (.error failure : Except Failure α) ↔ failure.isShortage = false := by
  simp [Finished]

theorem finished_bind_iff {first : Except Failure α} {next : α → Except Failure β} :
    Finished (first >>= next) ↔
      Finished first ∧ ∀ value, first = .ok value → Finished (next value) := by
  cases first with
  | error failure => simp [bind, Except.bind]
  | ok value => simp [bind, Except.bind]

theorem finished_liftArithmetic (result : Except ArithmeticError α) :
    Finished (liftArithmetic result) := by
  cases result with
  | error error =>
      rintro failure ⟨⟩
      rfl
  | ok value => exact nofun

/-- The longer computation has the result of the shorter one, unless this ran out of frames. -/
def Agrees (short long : Except Failure α) : Prop :=
  Finished short → long = short

theorem Agrees.refl (result : Except Failure α) : Agrees result result :=
  fun _ => rfl

theorem Agrees.bind {short long : Except Failure α} {shortNext longNext : α → Except Failure β}
    (first : Agrees short long) (next : ∀ value, Agrees (shortNext value) (longNext value)) :
    Agrees (short >>= shortNext) (long >>= longNext) := by
  intro finished
  obtain ⟨before, after⟩ := finished_bind_iff.mp finished
  rw [first before]
  cases short with
  | error failure => rfl
  | ok value => exact next value (after value rfl)

theorem Agrees.map {short long : Except Failure α} (agrees : Agrees short long) (build : α → β) :
    Agrees (short.map build) (long.map build) := by
  intro finished
  cases short with
  | ok value => rw [agrees (finished_ok value)]
  | error failure => rw [agrees (finished_error.mpr (finished_error.mp finished))]

theorem Agrees.mapM {short long : α → Except Failure β}
    (agrees : ∀ item, Agrees (short item) (long item)) (items : List α) :
    Agrees (items.mapM short) (items.mapM long) := by
  induction items with
  | nil => exact .refl _
  | cons item rest inductionHypothesis =>
      rw [List.mapM_cons, List.mapM_cons]
      exact (agrees item).bind fun value => inductionHypothesis.bind fun values => .refl _

end

theorem evaluateExpression_agrees (bindings : Bindings) {frames more : Nat}
    (enough : frames ≤ more) (node : Node) :
    Agrees (evaluateExpression bindings frames node) (evaluateExpression bindings more node) := by
  induction frames generalizing more node with
  | zero => exact fun finished => nomatch finished _ rfl
  | succ frames inductionHypothesis =>
      obtain ⟨more, rfl⟩ := Nat.exists_eq_add_of_lt enough
      have inner := inductionHypothesis (Nat.le_add_right frames more)
      cases node with
      | sub left right =>
          exact (inner left).bind fun first => (inner right).bind fun second => .refl _
      | div left right =>
          refine (inner right).bind fun divisor => ?_
          dsimp only
          split
          · exact .refl _
          · exact (inner left).bind fun dividend => .refl _
      | _ => exact .refl _

section

variable {frames more : Nat} (enough : frames ≤ more)

include enough

theorem evaluateComparison_agrees (bindings : Bindings) (node : Node) :
    Agrees (evaluateComparison bindings frames node) (evaluateComparison bindings more node) := by
  have operand := evaluateExpression_agrees bindings enough
  cases node with
  | eq left right =>
      exact (operand left).bind fun first => (operand right).bind fun second => .refl _
  | _ => exact .refl _

theorem prepareCall_agrees (limits : Limits) (depth : Nat) (name : String) (args : List Node)
    (node : Node) (state : State) :
    Agrees (prepareCall limits frames depth name args node state)
      (prepareCall limits more depth name args node state) := by
  rw [prepareCall, prepareCall]
  split
  · exact .refl _
  · split
    · exact .refl _
    · have values := Agrees.mapM (evaluateExpression_agrees state.bindings enough) args
      exact values.bind fun _ => .refl _

end

/-- A call neither hides nor adds a shortage of frames. -/
theorem finished_callResult {caller : State} {name : String} {node : Node}
    {result : Except Failure State} :
    Finished (callResult caller name node result) ↔ Finished result := by
  match result with
  | .ok called => exact iff_of_true (finished_ok _) (finished_ok _)
  | .error .outOfFrames =>
      rw [callResult, finished_error, finished_error]
      rfl
  | .error (.runtime error) | .error (.arithmetic error) | .error (.canvas error) => rfl

/-- Whatever the progress, the longer run ends as the shorter one, unless this ran out of frames. -/
def Steady (short long : Progress → Outcome) : Prop :=
  ∀ progress, Finished (short progress).1 → long progress = short progress

/-- A run that starts with a computation goes on with its value or ends with its failure. -/
def proceed {α : Type} (next : α → Progress → Outcome) (first : Except Failure α)
    (progress : Progress) : Outcome :=
  match first with
  | .ok value => next value progress
  | .error failure => (.error failure, progress)

namespace Steady

variable {short long : Progress → Outcome}

theorem refl (step : Progress → Outcome) : Steady step step :=
  fun _ _ => rfl

theorem still {first second : Except Failure State} (agrees : Agrees first second) :
    Steady (fun progress => (first, progress)) fun progress => (second, progress) := by
  intro progress finished
  rw [agrees finished]

theorem record (steady : Steady short long) (event : Event) :
    Steady (fun progress => short (progress.record event))
      fun progress => long (progress.record event) :=
  fun progress => steady (progress.record event)

theorem finishCall (steady : Steady short long) (caller : State) (name : String) (node : Node) :
    Steady (fun progress => Turtle.finishCall caller name node (short progress))
      fun progress => Turtle.finishCall caller name node (long progress) := by
  intro progress finished
  exact congrArg (Turtle.finishCall caller name node)
    (steady progress (finished_callResult.mp finished))

theorem proceed {α : Type} {first second : Except Failure α}
    {shortNext longNext : α → Progress → Outcome} (agrees : Agrees first second)
    (next : ∀ value, Steady (shortNext value) (longNext value)) :
    Steady (Turtle.proceed shortNext first) (Turtle.proceed longNext second) := by
  intro progress finished
  cases first with
  | ok value =>
      rw [agrees (finished_ok value)]
      exact next value progress finished
  | error failure =>
      have same : second = .error failure :=
        agrees (finished_error.mpr (finished_error.mp finished))
      rw [same]
      rfl

theorem andThen {shortNext longNext : State → Progress → Outcome} (steady : Steady short long)
    (next : ∀ state, Steady (shortNext state) (longNext state)) :
    Steady
      (fun progress =>
        match short progress with
        | (.ok state, progress) =>
            if state.terminated then (.ok state, progress) else shortNext state progress
        | (.error failure, progress) => (.error failure, progress))
      fun progress =>
        match long progress with
        | (.ok state, progress) =>
            if state.terminated then (.ok state, progress) else longNext state progress
        | (.error failure, progress) => (.error failure, progress) := by
  intro progress finished
  rcases ran : short progress with ⟨failure | state, middle⟩
  · simp only [ran] at finished ⊢
    rw [steady progress (by rwa [ran]), ran]
  · simp only [ran] at finished ⊢
    rw [steady progress (by rw [ran]; exact finished_ok state), ran]
    cases stopped : state.terminated with
    | true => simp only [stopped, if_true]
    | false =>
        simp only [stopped, Bool.false_eq_true, if_false] at finished ⊢
        exact next state middle finished

end Steady

theorem runSequence_steady {short long : Node → State → Progress → Outcome}
    (steady : ∀ node state, Steady (short node state) (long node state)) (node : Node)
    (state : State) : Steady (runSequence short node state) (runSequence long node state) := by
  fun_induction Node.flatten node generalizing state with
  | case1 first second _ secondHypothesis => exact (steady first state).andThen secondHypothesis
  | case2 node single =>
      rw [runSequence_of_single single, runSequence_of_single single]
      exact steady node state

theorem runLoop_steady {short long : State → Progress → Outcome}
    (steady : ∀ state, Steady (short state) (long state)) (count : Nat) (state : State) :
    Steady (runLoop short count state) (runLoop long count state) := by
  induction count generalizing state with
  | zero => exact .refl _
  | succ count inductionHypothesis => exact (steady state).andThen inductionHypothesis

section

variable {limits : Limits} {frames more depth : Nat}

theorem evaluate_forward_eq {pixels : Node} {state : State} (progress : Progress) :
    evaluate limits (frames + 1) depth (.forward pixels) state progress =
      proceed (moveForward state) (evaluateExpression state.bindings frames pixels)
        (progress.record (.evaluating (.forward pixels) state)) := by
  cases evaluated : evaluateExpression state.bindings frames pixels <;>
    simp only [evaluate, evaluated, proceed]

theorem evaluate_loop_eq {times body : Node} {state : State} (progress : Progress) :
    evaluate limits (frames + 2) depth (.loop times body) state progress =
      proceed (fun count => runLoop (evaluate limits frames depth body) count state)
        (evaluateExpression state.bindings frames times >>= fun value =>
          repeatCount limits value (.loop times body))
        (progress.record (.evaluating (.loop times body) state)) := by
  cases counted : evaluateExpression state.bindings frames times >>= fun value =>
      repeatCount limits value (.loop times body) <;>
    simp only [evaluate, counted, proceed]

theorem evaluate_branch_eq {condition body : Node} {state : State} (progress : Progress) :
    evaluate limits (frames + 2) depth (.branch condition body) state progress =
      proceed (fun taken progress =>
          if taken then evaluate limits frames depth body state progress
          else (.ok { state with terminated := false }, progress))
        (evaluateComparison state.bindings frames condition)
        (progress.record (.evaluating (.branch condition body) state)) := by
  rcases compared : evaluateComparison state.bindings frames condition with failure | taken
  · simp only [evaluate, compared, proceed]
  · cases taken <;> simp [evaluate, compared, proceed]

theorem evaluate_call_eq {name : String} {args : List Node} {state : State}
    (progress : Progress) :
    evaluate limits (frames + 2) depth (.call name args) state progress =
      proceed (fun called progress =>
          finishCall state name (.call name args)
            (evaluate limits frames (depth + 1) called.1.body called.2
              (progress.record (.activated name (depth + 1)))))
        (prepareCall limits frames depth name args (.call name args) state)
        (progress.record (.evaluating (.call name args) state)) := by
  cases prepared : prepareCall limits frames depth name args (.call name args) state <;>
    simp only [evaluate, prepared, proceed]

theorem evaluate_steady_of_rest {node : Node} {state : State} {short long : Progress → Outcome}
    (steady : Steady short long)
    (sameShort : ∀ progress, evaluate limits (frames + 1) depth node state progress =
      short (progress.record (.evaluating node state)))
    (sameLong : ∀ progress, evaluate limits (more + 1) depth node state progress =
      long (progress.record (.evaluating node state))) :
    Steady (evaluate limits (frames + 1) depth node state)
      (evaluate limits (more + 1) depth node state) := by
  rw [funext sameShort, funext sameLong]
  exact steady.record (.evaluating node state)

/-- A statement is steady when all statements are within fewer frames. -/
theorem evaluate_steady_step
    (inner : ∀ short < frames, ∀ long, short ≤ long → ∀ depth node state,
      Steady (evaluate limits short depth node state) (evaluate limits long depth node state))
    (enough : frames ≤ more) (node : Node) (state : State) :
    Steady (evaluate limits (frames + 1) depth node state)
      (evaluate limits (more + 1) depth node state) := by
  have expression := evaluateExpression_agrees state.bindings enough
  cases node with
  | forward pixels =>
      exact evaluate_steady_of_rest
        (.proceed (expression pixels) fun value => .refl (moveForward state value))
        evaluate_forward_eq evaluate_forward_eq
  | rotate degrees =>
      have turned := (expression degrees).bind fun value => .refl (turn state value)
      exact evaluate_steady_of_rest (.still turned) (fun _ => rfl) fun _ => rfl
  | setHeading degrees =>
      have headed := (expression degrees).map fun value => { state with heading := value }
      exact evaluate_steady_of_rest (.still headed) (fun _ => rfl) fun _ => rfl
  | define name params body | stop =>
      exact evaluate_steady_of_rest (.refl _) (fun _ => rfl) fun _ => rfl
  | const value | var name | sub left right | div left right | eq left right =>
      exact evaluate_steady_of_rest (.refl _) (fun _ => rfl) fun _ => rfl
  | seq first second =>
      match frames, more with
      | 0, _ => exact fun _ finished => nomatch finished _ rfl
      | frames + 1, more + 1 =>
          have statement := inner frames (by omega) more (by omega) depth
          exact evaluate_steady_of_rest (runSequence_steady statement (.seq first second) state)
            (fun _ => rfl) fun _ => rfl
  | loop times body =>
      match frames, more with
      | 0, _ => exact fun _ finished => nomatch finished _ rfl
      | frames + 1, more + 1 =>
          have round := inner frames (by omega) more (by omega) depth body
          have counted := (evaluateExpression_agrees state.bindings
            (Nat.le_of_succ_le_succ enough) times).bind fun value =>
              .refl (repeatCount limits value (.loop times body))
          exact evaluate_steady_of_rest
            (.proceed counted fun count => runLoop_steady round count state)
            evaluate_loop_eq evaluate_loop_eq
  | branch condition body =>
      match frames, more with
      | 0, _ => exact fun _ finished => nomatch finished _ rfl
      | frames + 1, more + 1 =>
          have taken := inner frames (by omega) more (by omega) depth body state
          have compared := evaluateComparison_agrees (Nat.le_of_succ_le_succ enough)
            state.bindings condition
          refine evaluate_steady_of_rest (.proceed compared ?_) evaluate_branch_eq
            evaluate_branch_eq
          rintro (_ | _)
          · exact .refl _
          · exact taken
  | call name args =>
      match frames, more with
      | 0, _ => exact fun _ finished => nomatch finished _ rfl
      | frames + 1, more + 1 =>
          have prepared := prepareCall_agrees (Nat.le_of_succ_le_succ enough) limits depth name
            args (.call name args) state
          refine evaluate_steady_of_rest (.proceed prepared fun called => ?_) evaluate_call_eq
            evaluate_call_eq
          have body := inner frames (by omega) more (by omega) (depth + 1) called.1.body called.2
          exact (body.record (.activated name (depth + 1))).finishCall state name (.call name args)

end

/-- More frames keep what an evaluation ends with, unless it ran out of frames. -/
theorem evaluate_steady (limits : Limits) {frames more : Nat} (enough : frames ≤ more)
    (depth : Nat) (node : Node) (state : State) :
    Steady (evaluate limits frames depth node state) (evaluate limits more depth node state) := by
  induction frames using Nat.strongRecOn generalizing more depth node state with
  | _ frames inductionHypothesis =>
      match frames, more with
      | 0, _ => exact fun _ finished => nomatch finished _ rfl
      | frames + 1, more + 1 =>
          exact evaluate_steady_step
            (fun short below long wider => inductionHypothesis short (by omega) wider)
            (Nat.le_of_succ_le_succ enough) node state

end Turtle
