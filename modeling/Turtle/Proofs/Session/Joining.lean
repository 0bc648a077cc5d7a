import Turtle.Proofs.Evaluation.Budget
import Turtle.Proofs.Evaluation.Flatten
import Turtle.Proofs.Grammar.Juxtaposition
import Turtle.Proofs.Grammar.Levels
import Turtle.Proofs.Session.Prompt

/-
This file shows that a session that takes a program line by line comes to what one run of the whole
text comes to.
-/

namespace Turtle

namespace Interpreter

variable {interpreter : Interpreter} {program : Node} {canvas : Canvas} {state final : State}

theorem isShortage_nestingFailure (node : Node) (failure : Failure) :
    (nestingFailure node failure).isShortage = failure.isShortage := by
  cases failure <;> rfl

/-- A program that ends in a state does so when its statements run one after another, and these add
the same segments to a recording. -/
theorem runAll_of_runTree
    (ended : (interpreter.runTree program canvas state).result = .ok final) {long : Nat}
    (enough : interpreter.limits.frames ≤ long) (earlier : Array Segment) (events : Array Event) :
    ∃ after, runAll (evaluate interpreter.limits long 0) program.flatten state
        ⟨.direct (.recording earlier), events⟩ =
      (.ok final, ⟨.direct (.recording
        (earlier ++ (interpreter.runTree program .blank state).canvas.segments.toArray)),
        after⟩) := by
  obtain ⟨progress, ran, -⟩ := (interpreter.runTree_ok_iff state).mp ⟨ended, rfl⟩
  obtain ⟨result, drawn⟩ := evaluate_recording ran earlier events
  rcases evaluate_flatten_cases interpreter.limits enough 0 program state
    ⟨.direct (.recording earlier), events⟩ with ⟨failure, failed, -⟩ | ⟨same, together⟩
  · rw [result] at failed
    cases failed
  · rw [result] at same
    rw [drawn] at together
    generalize runAll _ program.flatten state _ = each at same together ⊢
    obtain ⟨answer, ⟨reached, after⟩⟩ := each
    cases same
    cases together
    rw [runTree_blank_segments ran]
    exact ⟨after, rfl⟩

end Interpreter

namespace CommandLine

/-- The session takes the lines one by one. Each is a program that ends in a state and leaves no
stop, and the segments are those that the programs draw on their own. -/
inductive Session.Performs (settings : Settings) (interpreter : Interpreter) :
    Session → List (List Char) → List Segment → Session → Prop
  | nil (session : Session) : Performs settings interpreter session [] [] session
  | cons {session middle last : Session} {line : List Char} {rest : List (List Char)}
      {program : Node} {final : State} {output : String} {drawn : List Segment}
      (isProgram : IsProgram line)
      (found : Program.readChars (levelsWithin session.frames) (Text.strip line) "<repl>" =
        .ok program)
      (ended : (interpreter.runTree program session.canvas session.state).result = .ok final)
      (running : final.terminated = false)
      (taken : takeLine settings session line = .prompt middle output)
      (more : Performs settings interpreter middle rest drawn last) :
      Performs settings interpreter session (line :: rest)
        ((interpreter.runTree program .blank session.state).canvas.segments ++ drawn) last

section

variable {settings : Settings} {interpreter : Interpreter} {session last : Session}
  {lines : List (List Char)} {drawn : List Segment}

/-- A program that leaves no stop leaves the session with its state and its canvas, and never with
fewer frames. -/
theorem takeLine_of_running (ready : settings.interpreter = .ok interpreter) {middle : Session}
    {line : List Char} {program : Node} {final : State} {output : String}
    (isProgram : IsProgram line)
    (found : Program.readChars (levelsWithin session.frames) (Text.strip line) "<repl>" =
      .ok program)
    (ended : (interpreter.runTree program session.canvas session.state).result = .ok final)
    (running : final.terminated = false)
    (taken : takeLine settings session line = .prompt middle output) :
    middle.state = final ∧
      middle.canvas = (interpreter.runTree program session.canvas session.state).canvas ∧
      session.frames ≤ middle.frames := by
  obtain ⟨text, prompted⟩ := takeLine_of_ok isProgram found ready ended
  rw [prompted] at taken
  cases taken
  refine ⟨?_, rfl, Nat.le_max_left _ _⟩
  show { final with terminated := false } = final
  rw [← running]

theorem Session.Performs.frames_le (ready : settings.interpreter = .ok interpreter)
    (performs : Session.Performs settings interpreter session lines drawn last) :
    session.frames ≤ last.frames := by
  induction performs with
  | nil session => exact Nat.le_refl _
  | cons isProgram found ended running taken _ inductionHypothesis =>
      obtain ⟨-, -, more⟩ := takeLine_of_running ready isProgram found ended running taken
      exact more.trans inductionHypothesis

/-- The canvas of the session holds the segments of all lines. -/
theorem Session.Performs.replay (ready : settings.interpreter = .ok interpreter)
    (performs : Session.Performs settings interpreter session lines drawn last) :
    session.canvas.replay drawn = (.ok (), last.canvas) := by
  induction performs with
  | nil session => rfl
  | cons isProgram found ended running taken _ inductionHypothesis =>
      obtain ⟨-, canvas, -⟩ := takeLine_of_running ready isProgram found ended running taken
      have first := Interpreter.replay_of_runTree ended
      rw [← canvas] at first
      rw [Canvas.replay_append first]
      exact inductionHypothesis

/-- The lines are programs within the frames that the session ends with. Their statements, one after
another, lead to the state of the session and draw the segments of all lines. -/
theorem Session.Performs.runs (ready : settings.interpreter = .ok interpreter)
    (performs : Session.Performs settings interpreter session lines drawn last) :
    ∃ programs, List.Forall₂
        (fun line program => Program.read (levelsWithin last.frames) (String.ofList line)
          Program.unnamed = .ok program)
        lines programs ∧
      ∀ long, interpreter.limits.frames ≤ long → ∀ earlier events,
        let each := runAll (evaluate interpreter.limits long 0) (programs.flatMap Node.flatten)
          session.state ⟨.direct (.recording earlier), events⟩
        each.1 = .ok last.state ∧
          each.2.canvas = .direct (.recording (earlier ++ drawn.toArray)) := by
  induction performs with
  | nil session =>
      refine ⟨[], .nil, ?_⟩
      intro long enough earlier events
      simp [runAll]
  | @cons session _ last _ _ program _ _ drawn isProgram found ended running taken others
      inductionHypothesis =>
      obtain ⟨state, -, grown⟩ := takeLine_of_running ready isProgram found ended running taken
      obtain ⟨programs, reads, runs⟩ := inductionHypothesis
      have levels : levelsWithin session.frames ≤ levelsWithin last.frames :=
        Nat.div_le_div_right (grown.trans (others.frames_le ready))
      have first := Program.read_of_strip found Program.unnamed
      refine ⟨program :: programs, .cons (Program.read_of_deeper levels first) reads, ?_⟩
      intro long enough earlier events
      obtain ⟨after, reached⟩ := Interpreter.runAll_of_runTree ended enough earlier events
      have others := runs long enough
        (earlier ++ (interpreter.runTree program .blank session.state).canvas.segments.toArray)
        after
      dsimp only
      -- No stop is pending behind the first line, so that the statements of the others follow.
      rw [List.flatMap_cons, runAll_append (.inl program.flatten_ne_nil)]
      simp only [reached, running, Bool.false_eq_true, if_false]
      rw [state] at others
      simpa using others

/-- The lines are one program when they are joined by line feeds. Within any frames this runs out of
them or does what the lines do. -/
theorem Session.Performs.joined (ready : settings.interpreter = .ok interpreter)
    (performs : Session.Performs settings interpreter session lines drawn last)
    (nonempty : lines ≠ []) :
    ∃ node, Program.read (levelsWithin last.frames)
        (String.intercalate "\n" (lines.map String.ofList)) Program.unnamed = .ok node ∧
      ∀ frames,
        let outcome := evaluate interpreter.limits frames 0 node session.state ⟨.blank, #[]⟩
        (∃ failure, outcome.1 = .error failure ∧ failure.isShortage = true) ∨
          outcome.1 = .ok last.state ∧ outcome.2.canvas.segments = drawn := by
  obtain ⟨programs, reads, runs⟩ := performs.runs ready
  cases reads with
  | nil => exact absurd rfl nonempty
  | cons first others =>
      obtain ⟨node, found, flattened⟩ := Program.read_lines (.cons first others)
      refine ⟨node, found, ?_⟩
      intro frames outcome
      have wider : frames ≤ max frames interpreter.limits.frames := Nat.le_max_left _ _
      obtain ⟨result, canvas⟩ :=
        runs (max frames interpreter.limits.frames) (Nat.le_max_right _ _) #[] #[]
      rcases evaluate_flatten_cases interpreter.limits wider 0 node session.state ⟨.blank, #[]⟩
        with short | ⟨same, together⟩
      · exact .inl short
      · rw [flattened] at same together
        refine .inr ⟨same.trans result, ?_⟩
        rw [together.trans canvas]
        simp [Canvas.segments]

end

/-- A session that takes programs line by line comes to what one run of the whole text comes to. The
lines are programs that end in states one after another, and none of them leaves a stop; the canvas
then holds their segments. Joined by line feeds the lines are one program. From the state in which
the session began, its run ends in the state of the session and leaves the same canvas, and on a
blank recording it draws the segments of the lines one line after another, unless the frames run
out. With enough frames they do not, and within the levels that the session ends with the text is
never given up for its nesting. -/
theorem lines_run_as_whole {settings : Settings} {interpreter : Interpreter}
    {session last : Session} {lines : List (List Char)} {drawn : List Segment}
    (ready : settings.interpreter = .ok interpreter) (nonempty : lines ≠ [])
    (performs : Session.Performs settings interpreter session lines drawn last) :
    let text := String.intercalate "\n" (lines.map String.ofList)
    session.canvas.replay drawn = (.ok (), last.canvas) ∧
    (∀ levels,
      let whole := fun canvas => interpreter.run levels (.text text) canvas session.state
      (whole session.canvas).result = .ok last.state ∧
          (whole session.canvas).canvas = last.canvas ∧
          (whole .blank).result = .ok last.state ∧ (whole .blank).canvas.segments = drawn ∨
        (∃ failure, failure.isShortage = true ∧
          (whole session.canvas).result = .error (.failing failure) ∧
          (whole .blank).result = .error (.failing failure)) ∨
        levels < levelsWithin last.frames ∧ Program.read levels text Program.unnamed =
          .error (Program.nestingError text.toList Program.unnamed)) ∧
    ∃ node enough, Program.read (levelsWithin last.frames) text Program.unnamed = .ok node ∧
      ∀ frames, enough ≤ frames →
        let direct := interpreter.evaluateWithin frames node .blank session.state
        direct.result = .ok last.state ∧ direct.canvas.segments = drawn := by
  intro text
  obtain ⟨node, found, ends⟩ := performs.joined ready nonempty
  refine ⟨performs.replay ready, ?_, ?_⟩
  · intro levels whole
    rcases Program.read_cases found levels with read | cut
    case inr => exact .inr (.inr cut)
    have runs := @Interpreter.run_of_read interpreter session.state levels (.text text) node read
    simp only [whole, runs]
    rcases ran : evaluate interpreter.limits interpreter.limits.frames 0 node session.state
      ⟨.blank, #[]⟩ with ⟨result, progress⟩
    have ended := ends interpreter.limits.frames
    rw [ran] at ended
    rcases ended with ⟨failure, failed, short⟩ | ⟨succeeded, segments⟩
    · cases failed
      refine .inr (.inl ⟨_, (Interpreter.isShortage_nestingFailure node failure).trans short, ?_⟩)
      simp only [Interpreter.runTree, ran, and_self]
    · cases succeeded
      have onto := (interpreter.runTree_ok_iff session.state).mpr
        ⟨progress, ran, segments ▸ performs.replay ready⟩
      have blank := (interpreter.runTree_ok_iff session.state).mpr
        ⟨progress, ran, Canvas.replay_recording #[] _⟩
      have kept := (Interpreter.runTree_blank_segments ran).trans segments
      exact .inl ⟨onto.1, onto.2, blank.1, kept⟩
  · obtain ⟨enough, finished⟩ := evaluate_finished interpreter.limits 0 node session.state
    refine ⟨node, enough, found, ?_⟩
    intro frames wide direct
    rcases ends frames with ⟨failure, failed, short⟩ | ⟨succeeded, segments⟩
    · have spared := finished frames wide _ failure failed
      rw [short] at spared
      cases spared
    · refine ⟨?_, segments⟩
      show Except.mapError _ (evaluate interpreter.limits frames 0 node session.state _).1 = _
      rw [succeeded]
      rfl

/-- The second line calls the procedure that the first one defines. -/
def stepLines : List (List Char) :=
  ["to step :n fd :n / :n end".toList, "step 4".toList]

def stepFour : Node :=
  .call "step" [.const (.whole 4)]

theorem read_stepFour (levels : Nat) (filename : String) :
    Program.read (levels + 1) "step 4" filename = .ok stepFour := by
  have argument : Token.Spells "4" [.literal ['4']] :=
    Token.spells_literal rfl (by decide) (List.all_eq_true.mp (by decide)) (by decide)
  have spells := (Token.spells_word (by decide : Text.isWord "step" = true)).blank argument
  let statements : Derivation.Statements := .last (.call ⟨"step", by decide⟩
    [.single (.single (.literal ['4']))])
  exact @Program.read_of_derivation _ statements _ spells (Nat.le_add_left 1 levels) filename

theorem lines_run_as_whole_stepLines :
    ∃ session drawn last, originSettings.interpreter = .ok {} ∧ stepLines ≠ [] ∧
      Session.Performs originSettings {} session stepLines drawn last ∧ drawn.length = 1 ∧
      ∃ node enough,
        Program.read (levelsWithin last.frames) "to step :n fd :n / :n end\nstep 4"
          Program.unnamed = .ok node ∧
        ∀ frames, enough ≤ frames →
          (({} : Interpreter).evaluateWithin frames node .blank session.state).result =
              .ok last.state ∧
            (({} : Interpreter).evaluateWithin frames node .blank session.state).canvas.segments =
              drawn := by
  have ready : originSettings.interpreter = .ok {} := rfl
  obtain ⟨session, origin, canvas, frames⟩ : ∃ session : Session,
      session.state = .origin ∧ session.canvas = originSettings.canvas ∧
        session.frames = baseFrames :=
    ⟨⟨.origin, originSettings.canvas, ⟨[], [], none⟩, baseFrames⟩, rfl, rfl, rfl⟩
  have definition := readChars_of_trimmed (by decide) (Program.read_stepDefinition 140 "<repl>")
  rw [show 140 + 2 = levelsWithin session.frames by rw [frames]; rfl] at definition
  have defined : (({} : Interpreter).runTree (.define "step" ["n"] stepBody) session.canvas
      session.state).result = .ok (State.origin.define "step" ["n"] stepBody) := by
    rw [origin]
    rfl
  obtain ⟨output, first⟩ := takeLine_of_ok (by decide) definition ready defined
  generalize reached : Session.mk _ _ _ _ = middle at first
  have accepts : middle.canvas.Accepts := by
    rw [← reached, canvas]
    trivial
  have levels : 1170 + 1 = levelsWithin middle.frames := by
    rw [← reached]
    simp only [Session.raise, frames]
    decide +kernel
  have call := readChars_of_trimmed (by decide) (read_stepFour 1170 "<repl>")
  rw [levels] at call
  obtain ⟨final, ended, running, single⟩ : ∃ final,
      (({} : Interpreter).runTree stepFour .blank middle.state).result = .ok final ∧
      final.terminated = false ∧
      (({} : Interpreter).runTree stepFour .blank middle.state).canvas.segments.length = 1 := by
    rw [← reached]
    exact ⟨_, rfl, rfl, rfl⟩
  have drawn := (Interpreter.runTree_replays {} middle.state stepFour).follows accepts
  have onto := drawn.1.trans ended
  obtain ⟨text, second⟩ := takeLine_of_ok (by decide) call ready onto
  have performs : Session.Performs originSettings {} session stepLines _ _ :=
    .cons (by decide) definition defined rfl first
      (.cons (by decide) call onto running second (.nil _))
  have nonempty : stepLines ≠ [] := by decide
  have whole := (lines_run_as_whole ready nonempty performs).2.2
  have joined : String.intercalate "\n" (stepLines.map String.ofList) =
      "to step :n fd :n / :n end\nstep 4" := by decide
  rw [joined] at whole
  refine ⟨session, _, _, ready, nonempty, performs, ?_, whole⟩
  rw [List.append_nil, List.length_append, single]
  rfl

end CommandLine

end Turtle
