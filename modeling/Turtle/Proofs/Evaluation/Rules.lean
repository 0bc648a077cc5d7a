import Turtle.Evaluation
import Turtle.Proofs.Fallible

/-
This file states the evaluator as rules. An evaluation within some frames relates a task and a state
to the events on the way and to a result, and each rule says what one kind of statement does.
-/

namespace Turtle

/-- A task is a statement, what is left of a sequence, or what is left of a repetition. -/
inductive Task where
  | statement (node : Node)
  | spine (node : Node)
  | rounds (count : Nat) (body : Node)

/-- A statement with further frames of its own for its parts. -/
def Node.IsCompound : Node → Prop
  | .seq _ _ | .loop _ _ | .branch _ _ | .call _ _ => True
  | _ => False

/-- An expression or a comparison is no statement. -/
def Node.IsForeign : Node → Prop
  | .const _ | .var _ | .sub _ _ | .div _ _ | .eq _ _ => True
  | _ => False

/-- These are the causes for which a statement fails before it does anything. -/
inductive Refuses (limits : Limits) : Nat → Nat → Node → State → Failure → Prop
  | forward {frames depth : Nat} {pixels : Node} {state : State} {failure : Failure}
      (failed : evaluateExpression state.bindings frames pixels = .error failure) :
      Refuses limits frames depth (.forward pixels) state failure
  | rotate {frames depth : Nat} {degrees : Node} {state : State} {failure : Failure}
      (failed : evaluateExpression state.bindings frames degrees >>= turn state =
        .error failure) :
      Refuses limits frames depth (.rotate degrees) state failure
  | setHeading {frames depth : Nat} {degrees : Node} {state : State} {failure : Failure}
      (failed : evaluateExpression state.bindings frames degrees = .error failure) :
      Refuses limits frames depth (.setHeading degrees) state failure
  | loop {frames depth : Nat} {times body : Node} {state : State} {failure : Failure}
      (failed : (evaluateExpression state.bindings frames times >>= fun value =>
        repeatCount limits value (.loop times body)) = .error failure) :
      Refuses limits (frames + 1) depth (.loop times body) state failure
  | branch {frames depth : Nat} {condition body : Node} {state : State} {failure : Failure}
      (failed : evaluateComparison state.bindings frames condition = .error failure) :
      Refuses limits (frames + 1) depth (.branch condition body) state failure
  | call {frames depth : Nat} {name : String} {args : List Node} {state : State}
      {failure : Failure}
      (failed : prepareCall limits frames depth name args (.call name args) state =
        .error failure) :
      Refuses limits (frames + 1) depth (.call name args) state failure
  | outOfFrames {depth : Nat} {node : Node} {state : State} (compound : node.IsCompound) :
      Refuses limits 0 depth node state .outOfFrames
  | unknown {frames depth : Nat} {node : Node} {state : State} (foreign : node.IsForeign) :
      Refuses limits frames depth node state (.runtime (.unknownStatement node))

/-- The task goes no further: it has failed or met a stop. -/
def Halts : Except Failure State → Prop
  | .ok next => next.terminated = true
  | .error _ => True

/-- The rules of evaluation take the frames and the depth that a task starts with, and give the
events on the way and the result. -/
inductive Evaluates (limits : Limits) :
    Nat → Nat → Task → State → List Event → Except Failure State → Prop
  | outOfFrames {depth : Nat} {node : Node} {state : State} :
      Evaluates limits 0 depth (.statement node) state [] (.error .outOfFrames)
  | refuses {frames depth : Nat} {node : Node} {state : State} {failure : Failure}
      (refused : Refuses limits frames depth node state failure) :
      Evaluates limits (frames + 1) depth (.statement node) state [.evaluating node state]
        (.error failure)
  | moves {frames depth : Nat} {pixels : Node} {state : State} {value : Number} {finish : Point}
      (evaluated : evaluateExpression state.bindings frames pixels = .ok value)
      (moved : state.advance value = .ok finish) :
      Evaluates limits (frames + 1) depth (.statement (.forward pixels)) state
        [.evaluating (.forward pixels) state, .moved value]
        (.ok { state with position := finish, terminated := false })
  | blocked {frames depth : Nat} {pixels : Node} {state : State} {value : Number}
      {failure : Failure}
      (evaluated : evaluateExpression state.bindings frames pixels = .ok value)
      (failed : (∃ error, failure = .arithmetic error) ∨ ∃ error, failure = .canvas error) :
      Evaluates limits (frames + 1) depth (.statement (.forward pixels)) state
        [.evaluating (.forward pixels) state, .moved value] (.error failure)
  | rotates {frames depth : Nat} {degrees : Node} {state : State} {value heading : Number}
      (evaluated : evaluateExpression state.bindings frames degrees = .ok value)
      (turned : state.heading.add value = .ok heading) :
      Evaluates limits (frames + 1) depth (.statement (.rotate degrees)) state
        [.evaluating (.rotate degrees) state] (.ok { state with heading := heading })
  | heads {frames depth : Nat} {degrees : Node} {state : State} {value : Number}
      (evaluated : evaluateExpression state.bindings frames degrees = .ok value) :
      Evaluates limits (frames + 1) depth (.statement (.setHeading degrees)) state
        [.evaluating (.setHeading degrees) state] (.ok { state with heading := value })
  | defines {frames depth : Nat} {name : String} {params : List String} {body : Node}
      {state : State} :
      Evaluates limits (frames + 1) depth (.statement (.define name params body)) state
        [.evaluating (.define name params body) state] (.ok (state.define name params body))
  | stops {frames depth : Nat} {state : State} :
      Evaluates limits (frames + 1) depth (.statement .stop) state [.evaluating .stop state]
        (.ok { state with terminated := true })
  | sequence {frames depth : Nat} {first second : Node} {state : State} {events : List Event}
      {result : Except Failure State}
      (inner : Evaluates limits frames depth (.spine (.seq first second)) state events result) :
      Evaluates limits (frames + 2) depth (.statement (.seq first second)) state
        (.evaluating (.seq first second) state :: events) result
  | repeats {frames depth : Nat} {times body : Node} {state : State} {value : Number}
      {count : Nat} {events : List Event} {result : Except Failure State}
      (evaluated : evaluateExpression state.bindings frames times = .ok value)
      (counted : repeatCount limits value (.loop times body) = .ok count)
      (inner : Evaluates limits frames depth (.rounds count body) state events result) :
      Evaluates limits (frames + 2) depth (.statement (.loop times body)) state
        (.evaluating (.loop times body) state :: events) result
  | skips {frames depth : Nat} {condition body : Node} {state : State}
      (compared : evaluateComparison state.bindings frames condition = .ok false) :
      Evaluates limits (frames + 2) depth (.statement (.branch condition body)) state
        [.evaluating (.branch condition body) state] (.ok { state with terminated := false })
  | branches {frames depth : Nat} {condition body : Node} {state : State} {events : List Event}
      {result : Except Failure State}
      (compared : evaluateComparison state.bindings frames condition = .ok true)
      (inner : Evaluates limits frames depth (.statement body) state events result) :
      Evaluates limits (frames + 2) depth (.statement (.branch condition body)) state
        (.evaluating (.branch condition body) state :: events) result
  | calls {frames depth : Nat} {name : String} {args : List Node} {state entered : State}
      {definition : Definition} {events : List Event} {result : Except Failure State}
      (prepared : prepareCall limits frames depth name args (.call name args) state =
        .ok (definition, entered))
      (inner : Evaluates limits frames (depth + 1) (.statement definition.body) entered events
        result) :
      Evaluates limits (frames + 2) depth (.statement (.call name args)) state
        (.evaluating (.call name args) state :: .activated name (depth + 1) ::
          (events ++ [.finished name]))
        (callResult state name (.call name args) result)
  | last {frames depth : Nat} {node : Node} {state : State} {events : List Event}
      {result : Except Failure State} (single : ∀ first second, node ≠ .seq first second)
      (inner : Evaluates limits frames depth (.statement node) state events result) :
      Evaluates limits frames depth (.spine node) state events result
  | spineHalts {frames depth : Nat} {first second : Node} {state : State} {events : List Event}
      {result : Except Failure State}
      (inner : Evaluates limits frames depth (.statement first) state events result)
      (halts : Halts result) :
      Evaluates limits frames depth (.spine (.seq first second)) state events result
  | spineGoesOn {frames depth : Nat} {first second : Node} {state next : State}
      {events more : List Event} {result : Except Failure State}
      (inner : Evaluates limits frames depth (.statement first) state events (.ok next))
      (running : next.terminated = false)
      (rest : Evaluates limits frames depth (.spine second) next more result) :
      Evaluates limits frames depth (.spine (.seq first second)) state (events ++ more) result
  | done {frames depth : Nat} {body : Node} {state : State} :
      Evaluates limits frames depth (.rounds 0 body) state [] (.ok state)
  | roundHalts {frames depth count : Nat} {body : Node} {state : State} {events : List Event}
      {result : Except Failure State}
      (inner : Evaluates limits frames depth (.statement body) state events result)
      (halts : Halts result) :
      Evaluates limits frames depth (.rounds (count + 1) body) state events result
  | roundGoesOn {frames depth count : Nat} {body : Node} {state next : State}
      {events more : List Event} {result : Except Failure State}
      (inner : Evaluates limits frames depth (.statement body) state events (.ok next))
      (running : next.terminated = false)
      (rest : Evaluates limits frames depth (.rounds count body) next more result) :
      Evaluates limits frames depth (.rounds (count + 1) body) state (events ++ more) result

/-- The report of too deep a call shows the limit, unless the limit has too many digits. -/
theorem callRefusal_eq (limit : Int) (name : String) (node : Node) :
    callRefusal limit name node =
      if maxDigits < (Nat.toDigits 10 limit.natAbs).length then .arithmetic .tooManyDigits
      else .runtime (.callDepth limit name node) := by
  unfold callRefusal
  rw [Number.checkedText]
  by_cases long : maxDigits < (Nat.toDigits 10 limit.natAbs).length
  · rw [if_pos long, if_pos long]
  · rw [if_neg long, if_neg long]

theorem callRefusal_cases (limit : Int) (name : String) (node : Node) :
    callRefusal limit name node = .arithmetic .tooManyDigits ∨
      callRefusal limit name node = .runtime (.callDepth limit name node) := by
  rw [callRefusal_eq]
  exact ite_eq_or_eq ..

/-- A call enters the closure that its name stands for, within the limit of open calls. -/
theorem prepareCall_ok {limits : Limits} {frames depth : Nat} {name : String} {args : List Node}
    {node : Node} {state entered : State} {definition : Definition}
    (prepared : prepareCall limits frames depth name args node state =
      .ok (definition, entered)) :
    ∃ closure values, state.procedures.lookup name = some closure ∧
      (depth : Int) < limits.maxCallDepth ∧
      args.mapM (evaluateExpression state.bindings frames) = .ok values ∧
      definition = closure.definition ∧
      entered = state.enter closure.definition closure.visible values := by
  rw [prepareCall, Procedures.find?] at prepared
  cases found : state.procedures.lookup name with
  | none =>
      rw [found] at prepared
      cases prepared
  | some closure =>
      rw [found] at prepared
      dsimp only [Option.map_some] at prepared
      split at prepared
      · cases prepared
      · next within =>
          obtain ⟨values, evaluated, same⟩ := Fallible.bind_eq_ok_iff.mp prepared
          cases same
          exact ⟨closure, values, rfl, by omega, evaluated, rfl, rfl⟩

theorem callResult_ok {caller final : State} {name : String} {node : Node}
    {result : Except Failure State} (returned : callResult caller name node result = .ok final) :
    ∃ called, result = .ok called ∧ final = caller.leave called := by
  match result, returned with
  | .ok called, returned => exact ⟨called, rfl, (Except.ok.inj returned).symm⟩

/-- A call reports a shortage of frames under its name and passes on every other failure. -/
def Failure.inCall (name : String) (node : Node) : Failure → Failure
  | .outOfFrames => .runtime (.frameLimit name node)
  | failure => failure

theorem Failure.inCall_of_ne {name : String} {node : Node} {failure : Failure}
    (other : failure ≠ .outOfFrames) : failure.inCall name node = failure := by
  cases failure with
  | outOfFrames => exact absurd rfl other
  | runtime _ | arithmetic _ | canvas _ => rfl

theorem callResult_error (caller : State) (name : String) (node : Node) (failure : Failure) :
    callResult caller name node (.error failure) = .error (failure.inCall name node) := by
  cases failure <;> rfl

theorem callResult_failed {caller : State} {name : String} {node : Node}
    {result : Except Failure State} {failure : Failure}
    (failed : callResult caller name node result = .error failure) :
    ∃ inner, result = .error inner ∧ failure = inner.inCall name node := by
  cases result with
  | ok called => cases failed
  | error inner =>
      rw [callResult_error] at failed
      cases failed
      exact ⟨inner, rfl, rfl⟩

/-- A statement that is no sequence is the whole of its spine. -/
theorem runSequence_of_single {step : Node → State → Progress → Outcome} {node : Node}
    (single : ∀ first second, node ≠ .seq first second) (state : State) :
    runSequence step node state = step node state := by
  funext progress
  exact runSequence.eq_2 step node state progress single

/-- Whatever its progress, the step adds events that fit its result. -/
def Logs (step : Progress → Outcome) (fits : List Event → Except Failure State → Prop) : Prop :=
  ∀ progress, ∃ events, fits events (step progress).1 ∧
    (step progress).2.events.toList = progress.events.toList ++ events

namespace Logs

variable {step : Progress → Outcome} {more : State → Progress → Outcome}
  {fits : List Event → Except Failure State → Prop}

theorem mono {first : List Event → Except Failure State → Prop} (logs : Logs step first)
    (implies : ∀ events result, first events result → fits events result) : Logs step fits := by
  intro progress
  obtain ⟨events, fit, added⟩ := logs progress
  exact ⟨events, implies events _ fit, added⟩

/-- A step that has its result at once adds nothing. -/
theorem still {result : Except Failure State} (fit : fits [] result) :
    Logs (fun progress => (result, progress)) fits :=
  fun progress => ⟨[], fit, by simp⟩

theorem record {event : Event} (logs : Logs step fun events => fits (event :: events)) :
    Logs (fun progress => step (progress.record event)) fits := by
  intro progress
  obtain ⟨events, fit, added⟩ := logs (progress.record event)
  exact ⟨event :: events, fit, by simpa [Progress.record] using added⟩

theorem finishCall {caller : State} {name : String} {node : Node}
    (logs : Logs step fun events result =>
      fits (events ++ [.finished name]) (callResult caller name node result)) :
    Logs (fun progress => Turtle.finishCall caller name node (step progress)) fits := by
  intro progress
  obtain ⟨events, fit, added⟩ := logs progress
  exact ⟨events ++ [.finished name], fit, by
    simp [Turtle.finishCall, Progress.record, added]⟩

/-- The next step follows unless the first one halts. -/
theorem andThen {first : List Event → Except Failure State → Prop} (logs : Logs step first)
    (halts : ∀ events result, first events result → Halts result → fits events result)
    (goesOn : ∀ events next, first events (.ok next) → next.terminated = false →
      Logs (more next) fun added => fits (events ++ added)) :
    Logs (fun progress =>
      match step progress with
      | (.ok next, progress) =>
          if next.terminated then (.ok next, progress) else more next progress
      | (.error failure, progress) => (.error failure, progress)) fits := by
  intro progress
  obtain ⟨events, fit, added⟩ := logs progress
  rcases ran : step progress with ⟨failure | next, middle⟩
  · simp only [ran] at fit added ⊢
    exact ⟨events, halts events _ fit trivial, added⟩
  · simp only [ran] at fit added ⊢
    cases stopped : next.terminated with
    | true =>
        simp only [if_true]
        exact ⟨events, halts events _ fit stopped, added⟩
    | false =>
        obtain ⟨others, further, longer⟩ := goesOn events next fit stopped middle
        simp only [Bool.false_eq_true, if_false]
        exact ⟨events ++ others, further, by rw [longer, added, List.append_assoc]⟩

end Logs

section

variable {limits : Limits} {frames depth : Nat}

theorem moveForward_logs {pixels : Node} {state : State} {value : Number}
    (evaluated : evaluateExpression state.bindings frames pixels = .ok value) :
    Logs (moveForward state value) fun events =>
      Evaluates limits (frames + 1) depth (.statement (.forward pixels)) state
        (.evaluating (.forward pixels) state :: events) := by
  intro progress
  refine ⟨[.moved value], ?_⟩
  cases moved : state.advance value with
  | error error =>
      simp only [moveForward, moved, Progress.record, Array.toList_push, and_true]
      exact .blocked evaluated (.inl ⟨error, rfl⟩)
  | ok finish =>
      rcases drawn : progress.canvas.draw ⟨state.position, finish⟩ with ⟨error | done, canvas⟩
      · simp only [moveForward, moved, Progress.record, drawn, Array.toList_push, and_true]
        exact .blocked evaluated (.inr ⟨error, rfl⟩)
      · simp only [moveForward, moved, Progress.record, drawn, Array.toList_push, and_true]
        exact .moves evaluated moved

theorem runSequence_logs
    (inner : ∀ node state, Logs (evaluate limits frames depth node state)
      (Evaluates limits frames depth (.statement node) state))
    (node : Node) (state : State) :
    Logs (runSequence (evaluate limits frames depth) node state)
      (Evaluates limits frames depth (.spine node) state) := by
  -- The statements of a flat sequence are those along its right spine.
  fun_induction Node.flatten node generalizing state with
  | case1 first second _ secondHypothesis =>
      refine (inner first state).andThen (fun _ _ => .spineHalts) ?_
      intro events next run running
      exact (secondHypothesis next).mono fun _ _ => .spineGoesOn run running
  | case2 node single =>
      rw [runSequence_of_single single]
      exact (inner node state).mono fun _ _ => .last single

theorem runLoop_logs {body : Node}
    (inner : ∀ state, Logs (evaluate limits frames depth body state)
      (Evaluates limits frames depth (.statement body) state))
    (count : Nat) (state : State) :
    Logs (runLoop (evaluate limits frames depth body) count state)
      (Evaluates limits frames depth (.rounds count body) state) := by
  induction count generalizing state with
  | zero => exact .still .done
  | succ count inductionHypothesis =>
      refine (inner state).andThen (fun _ _ => .roundHalts) ?_
      intro events next run running
      exact (inductionHypothesis next).mono fun _ _ => .roundGoesOn run running

/-- A statement is recorded before it is evaluated. -/
theorem evaluate_logs_of_rest {node : Node} {state : State} (rest : Progress → Outcome)
    (logs : Logs rest fun events => Evaluates limits (frames + 1) depth (.statement node) state
      (.evaluating node state :: events))
    (same : ∀ progress, evaluate limits (frames + 1) depth node state progress =
      rest (progress.record (.evaluating node state))) :
    Logs (evaluate limits (frames + 1) depth node state)
      (Evaluates limits (frames + 1) depth (.statement node) state) := by
  rw [funext same]
  exact logs.record

/-- A statement follows the rules when all statements do within fewer frames. -/
theorem evaluate_logs_step
    (inner : ∀ smaller < frames, ∀ depth node state,
      Logs (evaluate limits smaller depth node state)
        (Evaluates limits smaller depth (.statement node) state))
    (node : Node) (state : State) :
    Logs (evaluate limits (frames + 1) depth node state)
      (Evaluates limits (frames + 1) depth (.statement node) state) := by
  cases node with
  | forward pixels =>
      cases evaluated : evaluateExpression state.bindings frames pixels with
      | ok value =>
          exact evaluate_logs_of_rest _ (moveForward_logs evaluated) fun _ => by
            simp only [evaluate, evaluated]
      | error failure =>
          exact evaluate_logs_of_rest _ (.still (.refuses (.forward evaluated))) fun _ => by
            simp only [evaluate, evaluated]
  | rotate degrees =>
      refine evaluate_logs_of_rest _ (.still ?_) fun _ => rfl
      cases turned : evaluateExpression state.bindings frames degrees >>= turn state with
      | error failure => exact .refuses (.rotate turned)
      | ok next =>
          obtain ⟨value, evaluated, more⟩ := Fallible.bind_eq_ok_iff.mp turned
          obtain ⟨heading, added, same⟩ := Fallible.bind_eq_ok_iff.mp more
          cases same
          cases sum : state.heading.add value with
          | error error => simp [liftArithmetic, sum, Except.mapError] at added
          | ok heading =>
              simp only [liftArithmetic, sum, Except.mapError, Except.ok.injEq] at added
              exact added ▸ .rotates evaluated sum
  | setHeading degrees =>
      refine evaluate_logs_of_rest _ (.still ?_) fun _ => rfl
      cases evaluated : evaluateExpression state.bindings frames degrees with
      | error failure => exact .refuses (.setHeading evaluated)
      | ok value => exact .heads evaluated
  | define name params body => exact evaluate_logs_of_rest _ (.still .defines) fun _ => rfl
  | stop => exact evaluate_logs_of_rest _ (.still .stops) fun _ => rfl
  | seq first second =>
      cases frames with
      | zero =>
          exact evaluate_logs_of_rest _ (.still (.refuses (.outOfFrames trivial))) fun _ => rfl
      | succ frames =>
          have spine := runSequence_logs (inner frames (by omega) depth) (.seq first second) state
          exact evaluate_logs_of_rest _ (spine.mono fun _ _ => .sequence) fun _ => rfl
  | loop times body =>
      cases frames with
      | zero =>
          exact evaluate_logs_of_rest _ (.still (.refuses (.outOfFrames trivial))) fun _ => rfl
      | succ frames =>
          cases counted : evaluateExpression state.bindings frames times >>= fun value =>
              repeatCount limits value (.loop times body) with
          | error failure =>
              exact evaluate_logs_of_rest _ (.still (.refuses (.loop counted))) fun _ => by
                simp only [evaluate, counted]
          | ok count =>
              obtain ⟨value, evaluated, more⟩ := Fallible.bind_eq_ok_iff.mp counted
              have rounds := runLoop_logs (inner frames (by omega) depth body) count state
              exact evaluate_logs_of_rest _
                (rounds.mono fun _ _ => .repeats evaluated more) fun _ => by
                simp only [evaluate, counted]
  | branch condition body =>
      cases frames with
      | zero =>
          exact evaluate_logs_of_rest _ (.still (.refuses (.outOfFrames trivial))) fun _ => rfl
      | succ frames =>
          cases compared : evaluateComparison state.bindings frames condition with
          | error failure =>
              exact evaluate_logs_of_rest _ (.still (.refuses (.branch compared))) fun _ => by
                simp only [evaluate, compared]
          | ok met =>
              cases met with
              | false =>
                  exact evaluate_logs_of_rest _ (.still (.skips compared)) fun _ => by
                    simp only [evaluate, compared]
              | true =>
                  have taken := inner frames (by omega) depth body state
                  exact evaluate_logs_of_rest _ (taken.mono fun _ _ => .branches compared)
                    fun _ => by simp only [evaluate, compared]
  | call name args =>
      cases frames with
      | zero =>
          exact evaluate_logs_of_rest _ (.still (.refuses (.outOfFrames trivial))) fun _ => rfl
      | succ frames =>
          cases prepared : prepareCall limits frames depth name args (.call name args) state with
          | error failure =>
              exact evaluate_logs_of_rest _ (.still (.refuses (.call prepared))) fun _ => by
                simp only [evaluate, prepared]
          | ok target =>
              obtain ⟨definition, entered⟩ := target
              have called := inner frames (by omega) (depth + 1) definition.body entered
              exact evaluate_logs_of_rest _
                (.finishCall (.record (called.mono fun _ _ => .calls prepared))) fun _ => by
                simp only [evaluate, prepared]
  | const value | var name | sub left right | div left right | eq left right =>
      exact evaluate_logs_of_rest _ (.still (.refuses (.unknown trivial))) fun _ => rfl

end

/-- Every evaluation follows the rules. -/
theorem evaluate_logs (limits : Limits) (frames depth : Nat) (node : Node) (state : State) :
    Logs (evaluate limits frames depth node state)
      (Evaluates limits frames depth (.statement node) state) := by
  induction frames using Nat.strongRecOn generalizing depth node state with
  | _ frames inductionHypothesis =>
      cases frames with
      | zero => exact .still .outOfFrames
      | succ frames =>
          exact evaluate_logs_step (fun smaller below => inductionHypothesis smaller (by omega))
            node state

theorem evaluates_of_evaluate {limits : Limits} {frames depth : Nat} {node : Node} {state : State}
    {progress after : Progress} {result : Except Failure State}
    (ended : evaluate limits frames depth node state progress = (result, after)) :
    ∃ events, Evaluates limits frames depth (.statement node) state events result ∧
      after.events.toList = progress.events.toList ++ events := by
  have logged := evaluate_logs limits frames depth node state progress
  rwa [ended] at logged

end Turtle
