import Turtle.Proofs.Drawing
import Turtle.Proofs.Evaluation.Rules

/-
This file shows that a buffered run draws all that a direct evaluation draws, or nothing.
-/

namespace Turtle

/-- The step has one result on all canvases, and draws the same segments on each of them. -/
def Uniform (step : Progress → Outcome) : Prop :=
  ∃ (result : Except Failure State) (drawn : List Segment) (events : Array Event),
    (∀ segment ∈ drawn, segment.IsDrawable) ∧
    ∀ {earlier canvas : Canvas} {segments : List Segment} (before : Array Event),
      Canvas.Follows segments earlier canvas →
      ∃ next, step ⟨canvas, before⟩ = (result, ⟨next, before ++ events⟩) ∧
        Canvas.Follows (segments ++ drawn) earlier next

namespace Uniform

/-- A step that draws nothing is uniform. -/
theorem still (result : Except Failure State) : Uniform fun progress => (result, progress) :=
  ⟨result, [], #[], by simp, fun {_ canvas _} before follows =>
    ⟨canvas, by simp, by simpa using follows⟩⟩

theorem record {step : Progress → Outcome} (uniform : Uniform step) (event : Event) :
    Uniform fun progress => step (progress.record event) := by
  obtain ⟨result, drawn, events, drawable, runs⟩ := uniform
  refine ⟨result, drawn, #[event] ++ events, drawable, fun before follows => ?_⟩
  obtain ⟨next, ended, longer⟩ := runs (before.push event) follows
  exact ⟨next, by simpa [Progress.record] using ended, longer⟩

/-- A failure ends the run, and otherwise the next step goes on from the state reached. -/
theorem andThen {step : Progress → Outcome} {more : State → Progress → Outcome}
    (uniform : Uniform step) (others : ∀ state, Uniform (more state)) :
    Uniform fun progress =>
      match step progress with
      | (.ok next, progress) => more next progress
      | (.error failure, progress) => (.error failure, progress) := by
  obtain ⟨result, drawn, events, drawable, runs⟩ := uniform
  cases result with
  | error failure =>
      refine ⟨.error failure, drawn, events, drawable, fun before follows => ?_⟩
      obtain ⟨next, ended, longer⟩ := runs before follows
      exact ⟨next, by simp only [ended], longer⟩
  | ok state =>
      obtain ⟨last, drawn', events', drawable', runs'⟩ := others state
      refine ⟨last, drawn ++ drawn', events ++ events',
        List.forall_mem_append.mpr ⟨drawable, drawable'⟩, fun before follows => ?_⟩
      obtain ⟨middle, ended, longer⟩ := runs before follows
      obtain ⟨next, finished, all⟩ := runs' (before ++ events) longer
      refine ⟨next, ?_, by simpa using all⟩
      simp only [ended, finished, Array.append_assoc]

end Uniform

theorem moveForward_uniform (state : State) (pixels : Number) :
    Uniform (moveForward state pixels) := by
  cases moved : state.advance pixels with
  | error error =>
      refine ⟨.error (.arithmetic error), [], #[.moved pixels], by simp,
        fun {_ canvas _} before follows => ⟨canvas, ?_, by simpa using follows⟩⟩
      simp [moveForward, moved, Progress.record]
  | ok finish =>
      have drawable := State.isDrawable_of_advance moved
      refine ⟨.ok { state with position := finish, terminated := false },
        [⟨state.position, finish⟩], #[.moved pixels], by simpa using drawable,
        fun before follows => ?_⟩
      obtain ⟨next, drawn, longer⟩ := follows.draw drawable
      exact ⟨next, by simp [moveForward, moved, Progress.record, drawn], longer⟩

/-- The next step is left out once a stop is pending. -/
theorem Uniform.unless {more : State → Progress → Outcome}
    (others : ∀ state, Uniform (more state)) (state : State) :
    Uniform fun progress =>
      if state.terminated then (.ok state, progress) else more state progress := by
  cases state.terminated with
  | true => exact still (.ok state)
  | false => exact others state

theorem runSequence_uniform {step : Node → State → Progress → Outcome}
    (uniform : ∀ node state, Uniform (step node state)) (node : Node) (state : State) :
    Uniform (runSequence step node state) := by
  fun_induction Node.flatten node generalizing state with
  | case1 first second _ secondHypothesis =>
      exact (uniform first state).andThen (.unless secondHypothesis)
  | case2 node single =>
      rw [runSequence_of_single single]
      exact uniform node state

theorem runLoop_uniform {step : State → Progress → Outcome}
    (uniform : ∀ state, Uniform (step state)) (count : Nat) (state : State) :
    Uniform (runLoop step count state) := by
  induction count generalizing state with
  | zero => exact .still (.ok state)
  | succ count inductionHypothesis =>
      exact (uniform state).andThen (.unless inductionHypothesis)

theorem Uniform.finishCall {step : Progress → Outcome} (uniform : Uniform step) (caller : State)
    (name : String) (node : Node) :
    Uniform fun progress => Turtle.finishCall caller name node (step progress) := by
  obtain ⟨result, drawn, events, drawable, runs⟩ := uniform
  refine ⟨callResult caller name node result, drawn, events.push (.finished name), drawable,
    fun before follows => ?_⟩
  obtain ⟨next, ended, longer⟩ := runs before follows
  exact ⟨next, by simp [Turtle.finishCall, ended, Progress.record], longer⟩

/-- A statement is recorded before it is evaluated. -/
theorem evaluate_uniform_of_rest {limits : Limits} {frames depth : Nat} {node : Node}
    {state : State} {rest : Progress → Outcome} (uniform : Uniform rest)
    (same : ∀ progress, evaluate limits (frames + 1) depth node state progress =
      rest (progress.record (.evaluating node state))) :
    Uniform (evaluate limits (frames + 1) depth node state) := by
  rw [funext same]
  exact uniform.record (.evaluating node state)

/-- A statement is uniform when all statements are within fewer frames. -/
theorem evaluate_uniform_step {limits : Limits} {frames : Nat}
    (inner : ∀ smaller < frames, ∀ depth node state,
      Uniform (evaluate limits smaller depth node state))
    (depth : Nat) (node : Node) (state : State) :
    Uniform (evaluate limits (frames + 1) depth node state) := by
  cases node with
  | forward pixels =>
      cases evaluated : evaluateExpression state.bindings frames pixels with
      | ok value =>
          exact evaluate_uniform_of_rest (moveForward_uniform state value) fun _ => by
            simp only [evaluate, evaluated]
      | error failure =>
          exact evaluate_uniform_of_rest (.still (.error failure)) fun _ => by
            simp only [evaluate, evaluated]
  | rotate degrees | setHeading degrees | define name params body | stop =>
      exact evaluate_uniform_of_rest (.still _) fun _ => rfl
  | seq first second =>
      cases frames with
      | zero => exact evaluate_uniform_of_rest (.still (.error .outOfFrames)) fun _ => rfl
      | succ frames =>
          have rest := runSequence_uniform (inner frames (by omega) depth) (.seq first second) state
          exact evaluate_uniform_of_rest rest fun _ => rfl
  | loop times body =>
      cases frames with
      | zero => exact evaluate_uniform_of_rest (.still (.error .outOfFrames)) fun _ => rfl
      | succ frames =>
          cases counted : evaluateExpression state.bindings frames times >>= fun value =>
              repeatCount limits value (.loop times body) with
          | ok count =>
              exact evaluate_uniform_of_rest
                (runLoop_uniform (inner frames (by omega) depth body) count state) fun _ => by
                simp only [evaluate, counted]
          | error failure =>
              exact evaluate_uniform_of_rest (.still (.error failure)) fun _ => by
                simp only [evaluate, counted]
  | branch condition body =>
      cases frames with
      | zero => exact evaluate_uniform_of_rest (.still (.error .outOfFrames)) fun _ => rfl
      | succ frames =>
          cases compared : evaluateComparison state.bindings frames condition with
          | ok taken =>
              cases taken with
              | true =>
                  have rest := inner frames (by omega) depth body state
                  exact evaluate_uniform_of_rest rest fun _ => by
                    simp only [evaluate, compared]
              | false =>
                  exact evaluate_uniform_of_rest (.still (.ok { state with terminated := false }))
                    fun _ => by simp only [evaluate, compared]
          | error failure =>
              exact evaluate_uniform_of_rest (.still (.error failure)) fun _ => by
                simp only [evaluate, compared]
  | call name args =>
      cases frames with
      | zero => exact evaluate_uniform_of_rest (.still (.error .outOfFrames)) fun _ => rfl
      | succ frames =>
          cases prepared : prepareCall limits frames depth name args (.call name args) state with
          | ok target =>
              obtain ⟨definition, entered⟩ := target
              have called := (inner frames (by omega) (depth + 1) definition.body entered).record
                (.activated name (depth + 1))
              have rest := called.finishCall state name (.call name args)
              exact evaluate_uniform_of_rest rest fun _ => by
                simp only [evaluate, prepared]
          | error failure =>
              exact evaluate_uniform_of_rest (.still (.error failure)) fun _ => by
                simp only [evaluate, prepared]
  | const value | var name | sub left right | div left right | eq left right =>
      exact evaluate_uniform_of_rest (.still _) fun _ => rfl

/-- No evaluation looks at the canvas it draws on, and all its segments are drawable. -/
theorem evaluate_uniform (limits : Limits) (frames depth : Nat) (node : Node) (state : State) :
    Uniform (evaluate limits frames depth node state) := by
  induction frames using Nat.strongRecOn generalizing depth node state with
  | _ frames inductionHypothesis =>
      cases frames with
      | zero => exact .still (.error .outOfFrames)
      | succ frames =>
          exact evaluate_uniform_step
            (fun smaller below => inductionHypothesis smaller (by omega)) depth node state

namespace Interpreter

variable (interpreter : Interpreter) (node : Node) (state : State)

/-- A program has one result and one list of segments on all canvases. -/
theorem exists_drawn :
    ∃ (result : Except Failure State) (drawn : List Segment) (events : Array Event),
      (∀ segment ∈ drawn, segment.IsDrawable) ∧
      ∀ {canvas : Canvas}, canvas.Accepts → ∃ next,
        evaluate interpreter.limits interpreter.limits.frames 0 node state ⟨canvas, #[]⟩ =
          (result, ⟨next, events⟩) ∧ Canvas.Follows drawn canvas next := by
  obtain ⟨result, drawn, events, drawable, runs⟩ :=
    evaluate_uniform interpreter.limits interpreter.limits.frames 0 node state
  refine ⟨result, drawn, events, drawable, fun accepts => ?_⟩
  obtain ⟨next, ended, follows⟩ := runs #[] (Canvas.follows_nil accepts)
  exact ⟨next, by simpa using ended, follows⟩

theorem nestingFailure_cases (failure : Failure) :
    failure = .outOfFrames ∧ nestingFailure node failure = .runtime (.nestedTooDeep node) ∨
      failure ≠ .outOfFrames ∧ nestingFailure node failure = failure := by
  cases failure <;> simp [nestingFailure]

end Interpreter

theorem Canvas.blank_accepts : Canvas.blank.Accepts :=
  trivial

theorem Canvas.segments_of_follows {drawn : List Segment} {canvas : Canvas}
    (follows : Canvas.Follows drawn .blank canvas) : canvas.segments = drawn := by
  simp only [Canvas.Follows, Canvas.blank] at follows
  simp [follows, Canvas.segments]

/-- An evaluation adds to a recording what it draws on a blank one. -/
theorem evaluate_recording {limits : Limits} {frames depth : Nat} {node : Node} {state : State}
    {result : Except Failure State} {progress : Progress}
    (ran : evaluate limits frames depth node state ⟨.blank, #[]⟩ = (result, progress))
    (earlier : Array Segment) (events : Array Event) :
    let outcome := evaluate limits frames depth node state ⟨.direct (.recording earlier), events⟩
    outcome.1 = result ∧ outcome.2.canvas =
      .direct (.recording (earlier ++ progress.canvas.segments.toArray)) := by
  obtain ⟨reached, drawn, others, -, runs⟩ := evaluate_uniform limits frames depth node state
  obtain ⟨blank, buffered, recorded⟩ := runs #[] (Canvas.follows_nil Canvas.blank_accepts)
  obtain ⟨next, ended, follows⟩ :=
    runs events (@Canvas.follows_nil (.direct (.recording earlier)) trivial)
  rw [ran] at buffered
  cases buffered
  dsimp only
  rw [ended, Canvas.segments_of_follows recorded]
  exact ⟨rfl, follows⟩

/-- The program that a source stands for, when its statements nest within the levels. -/
def Source.read (levels : Nat) : Source → Except ReadError Node
  | .text content => Program.read levels content Program.unnamed
  | .tree node => .ok node

namespace Interpreter

variable (interpreter : Interpreter) (state : State)

/-- A buffered run that ends in a state has replayed all that it drew on a blank recording. -/
theorem runTree_ok_iff {node : Node} {canvas next : Canvas} {final : State} :
    (interpreter.runTree node canvas state).result = .ok final ∧
        (interpreter.runTree node canvas state).canvas = next ↔
      ∃ progress, evaluate interpreter.limits interpreter.limits.frames 0 node state
          ⟨.blank, #[]⟩ = (.ok final, progress) ∧
        canvas.replay progress.canvas.segments = (.ok (), next) := by
  constructor
  · rintro ⟨ended, same⟩
    rcases ran : evaluate interpreter.limits interpreter.limits.frames 0 node state ⟨.blank, #[]⟩
      with ⟨failure | reached, progress⟩
    · rw [runTree, ran] at ended
      cases ended
    · rcases replayed : canvas.replay progress.canvas.segments with ⟨error | done, last⟩
      · simp only [runTree, ran, replayed] at ended
        cases ended
      · simp only [runTree, ran, replayed] at ended same
        cases ended
        exact ⟨progress, rfl, by rw [replayed, same]⟩
  · rintro ⟨progress, ran, replayed⟩
    simp only [runTree, ran, replayed, and_self]

/-- A run on a blank recording keeps the segments that its evaluation draws there. -/
theorem runTree_blank_segments {interpreter : Interpreter} {node : Node} {state final : State}
    {progress : Progress}
    (ran : evaluate interpreter.limits interpreter.limits.frames 0 node state ⟨.blank, #[]⟩ =
      (.ok final, progress)) :
    (interpreter.runTree node .blank state).canvas.segments = progress.canvas.segments := by
  have replayed : Canvas.blank.replay progress.canvas.segments = (.ok (), .direct (.recording _)) :=
    Canvas.replay_recording #[] progress.canvas.segments
  have kept := ((interpreter.runTree_ok_iff state).mpr ⟨progress, ran, replayed⟩).2
  rw [kept]
  simp [Canvas.segments]

theorem replay_of_runTree {interpreter : Interpreter} {node : Node} {canvas : Canvas}
    {state final : State} (ended : (interpreter.runTree node canvas state).result = .ok final) :
    canvas.replay (interpreter.runTree node .blank state).canvas.segments =
      (.ok (), (interpreter.runTree node canvas state).canvas) := by
  obtain ⟨progress, ran, replayed⟩ := (interpreter.runTree_ok_iff state).mp ⟨ended, rfl⟩
  rw [runTree_blank_segments ran]
  exact replayed

/-- The run of a program fails in one way on all canvases and leaves them alone, or it replays the
same segments on each of them. -/
inductive Replays (run : Canvas → Run) : Prop
  | fails (error : RunError)
      (failed : ∀ canvas, (run canvas).result = .error error ∧ (run canvas).canvas = canvas)
  | draws (final : State) (drawn : List Segment)
      (drawable : ∀ segment ∈ drawn, segment.IsDrawable)
      (complete : ∀ canvas next, canvas.replay drawn = (.ok (), next) →
        (run canvas).result = .ok final ∧ (run canvas).canvas = next)
      (refused : ∀ canvas next error, canvas.replay drawn = (.error error, next) →
        (run canvas).result = .error (.failing (.canvas error)) ∧ (run canvas).canvas = next)

/-- The segments of a blank recording behind a run are those that the run replays. -/
theorem Replays.segments_blank {run : Canvas → Run} {final : State} {drawn : List Segment}
    (complete : ∀ canvas next, canvas.replay drawn = (.ok (), next) →
      (run canvas).result = .ok final ∧ (run canvas).canvas = next) :
    (run .blank).result = .ok final ∧ (run .blank).canvas.segments = drawn := by
  have replayed := Canvas.replay_recording #[] drawn
  obtain ⟨result, canvas⟩ := complete .blank _ replayed
  refine ⟨result, ?_⟩
  rw [canvas]
  simp [Canvas.segments]

/-- A canvas that accepts every drawing is left with what the run draws on a blank recording. -/
theorem Replays.follows {run : Canvas → Run} (replays : Replays run) {canvas : Canvas}
    (accepts : canvas.Accepts) :
    (run canvas).result = (run .blank).result ∧
      Canvas.Follows (run .blank).canvas.segments canvas (run canvas).canvas := by
  cases replays with
  | fails error failed =>
      rw [(failed canvas).1, (failed canvas).2, (failed .blank).1, (failed .blank).2]
      exact ⟨rfl, Canvas.follows_nil accepts⟩
  | draws final drawn drawable complete _ =>
      obtain ⟨blank, segments⟩ := Replays.segments_blank complete
      obtain ⟨next, replayed, follows⟩ := (Canvas.follows_nil accepts).replay drawable
      obtain ⟨result, same⟩ := complete canvas next replayed
      rw [result, same, blank, segments]
      exact ⟨rfl, follows⟩

theorem runTree_replays (node : Node) :
    Replays fun canvas => interpreter.runTree node canvas state := by
  obtain ⟨result, drawn, events, drawable, runs⟩ := interpreter.exists_drawn node state
  obtain ⟨blank, buffering, recorded⟩ := runs Canvas.blank_accepts
  have segments := Canvas.segments_of_follows recorded
  cases result with
  | error failure =>
      apply Replays.fails (.failing (nestingFailure node failure))
      intro canvas
      simp only [runTree, buffering, and_self]
  | ok final =>
      apply Replays.draws final drawn drawable
      · intro canvas next replayed
        simp only [runTree, buffering, segments, replayed, and_self]
      · intro canvas next error replayed
        simp only [runTree, buffering, segments, replayed, and_self]

/-- A program that is read has the result of its tree, and leaves the same canvas. -/
theorem run_of_read {levels : Nat} {source : Source} {node : Node}
    (found : source.read levels = .ok node) (canvas : Canvas) :
    (interpreter.run levels source canvas state).result =
        (interpreter.runTree node canvas state).result ∧
      (interpreter.run levels source canvas state).canvas =
        (interpreter.runTree node canvas state).canvas := by
  cases source with
  | tree tree =>
      cases found
      exact ⟨rfl, rfl⟩
  | text content =>
      rw [Source.read] at found
      simp only [run, withTree, found, and_self]

end Interpreter

/-- A buffered run is all or nothing. A program that ends in a state when it is evaluated on a
blank recording ends in the same state, and its segments, all of which are drawable, follow what
the canvas held before. A program that fails leaves the canvas as it was, and fails in the same
way except that a shortage of frames is reported as an error of the program. Direct evaluation on
the canvas has the same result, and leaves there what was drawn up to a failure. -/
theorem run_all_or_nothing (interpreter : Interpreter) (levels : Nat) (node : Node) (state : State)
    (canvas : Canvas) (accepts : canvas.Accepts) :
    let direct := interpreter.evaluateDirectly node .blank state
    let buffered := interpreter.run levels (.tree node) canvas state
    let drawing := interpreter.evaluateDirectly node canvas state
    (∀ segment ∈ direct.canvas.segments, segment.IsDrawable) ∧
    (∀ final, direct.result = .ok final →
      buffered.result = .ok final ∧
        Canvas.Follows direct.canvas.segments canvas buffered.canvas) ∧
    (∀ error, direct.result = .error error →
      buffered.canvas = canvas ∧ ∃ failure, error = .failing failure ∧
        (failure = .outOfFrames ∧
            buffered.result = .error (.failing (.runtime (.nestedTooDeep node))) ∨
          failure ≠ .outOfFrames ∧ buffered.result = .error (.failing failure))) ∧
    drawing.result = direct.result ∧
      Canvas.Follows direct.canvas.segments canvas drawing.canvas := by
  obtain ⟨result, drawn, events, drawable, runs⟩ := interpreter.exists_drawn node state
  obtain ⟨blank, buffering, recorded⟩ := runs Canvas.blank_accepts
  obtain ⟨next, drawing, follows⟩ := runs accepts
  have segments := Canvas.segments_of_follows recorded
  simp only [Interpreter.evaluateDirectly, Interpreter.evaluateWithin, Interpreter.run,
    Interpreter.withTree, Interpreter.runTree, buffering, drawing, segments]
  refine ⟨drawable, ?_, ?_, trivial, follows⟩
  · intro final succeeded
    cases result with
    | error failure => cases succeeded
    | ok reached =>
        cases succeeded
        obtain ⟨last, replayed, extended⟩ := (Canvas.follows_nil accepts).replay drawable
        simp only [replayed]
        exact ⟨trivial, extended⟩
  · intro error failed
    cases result with
    | error failure =>
        cases failed
        refine ⟨rfl, failure, rfl, ?_⟩
        rcases Interpreter.nestingFailure_cases node failure with ⟨short, same⟩ | ⟨other, same⟩
        · exact .inl ⟨short, by simp only [same]⟩
        · exact .inr ⟨other, by simp only [same]⟩
    | ok reached => cases failed

/-- This program draws a segment before it calls a procedure that does not exist. -/
def drawThenFail : Node :=
  .seq (.forward (.const (.whole 10))) (.call "missing" [])

theorem run_all_or_nothing_drawThenFail :
    (Canvas.direct (.svg {} #["<line />"])).Accepts ∧
      (({} : Interpreter).evaluateDirectly drawThenFail .blank .origin).result =
        .error (.failing (.runtime (.undefinedProcedure "missing" (.call "missing" [])))) ∧
      (({} : Interpreter).run (levelsWithin baseFrames) (.tree drawThenFail)
          (.direct (.svg {} #["<line />"])) .origin).canvas =
        .direct (.svg {} #["<line />"]) := by
  have failed : (({} : Interpreter).evaluateDirectly drawThenFail .blank .origin).result =
      .error (.failing (.runtime (.undefinedProcedure "missing" (.call "missing" [])))) := by rfl
  have outcome := run_all_or_nothing {} (levelsWithin baseFrames) drawThenFail .origin
    (.direct (.svg {} #["<line />"])) trivial
  exact ⟨trivial, failed, (outcome.2.2.1 _ failed).1⟩

end Turtle
