import Turtle.CommandLine.Repl
import Turtle.Proofs.BufferedRun
import Turtle.Proofs.Evaluation.Isolation
import Turtle.Proofs.Evaluation.Kinds

/-
This file follows an interactive session from prompt to prompt. No line leaves a stop or a binding
behind, a line that fails leaves nothing, and a line that succeeds adds its segments to the drawing.
-/

namespace Turtle.CommandLine

/-- The session takes the lines one by one, comes back to the prompt behind each of them and shows
the text on the way. -/
inductive Session.Reaches (settings : Settings) :
    Session → List (List Char) → String → Session → Prop
  | start (session : Session) : Reaches settings session [] "" session
  | next {session middle last : Session} {line : List Char} {rest : List (List Char)}
      {output shown : String} (taken : takeLine settings session line = .prompt middle output)
      (more : Reaches settings middle rest shown last) :
      Reaches settings session (line :: rest) (promptText ++ output ++ shown) last

/-- The lines behind a prompt are taken as if the session had started there. -/
theorem takeLines_of_reaches {settings : Settings} {session last : Session}
    {lines : List (List Char)} {shown : String}
    (reaches : Session.Reaches settings session lines shown last) (output : String)
    (rest : List (List Char)) :
    takeLines settings session output (lines ++ rest) =
      takeLines settings last (output ++ shown) rest := by
  induction reaches generalizing output with
  | start session => rw [List.nil_append, String.append_empty]
  | next taken _ inductionHypothesis =>
      rw [List.cons_append, takeLines, taken]
      simp only [inductionHypothesis, String.append_assoc]

/-- These commands show or save something, or do nothing. -/
def quietCommands : List String :=
  ["", ":help", ":state", ":save"]

/-- A line is a program when it is no command of the session. -/
def IsProgram (line : List Char) : Prop :=
  String.ofList (Text.strip line) ∉ "exit" :: quietCommands

instance (line : List Char) : Decidable (IsProgram line) :=
  inferInstanceAs (Decidable (¬ _))

theorem takeLine_of_isProgram {line : List Char} (isProgram : IsProgram line)
    (settings : Settings) (session : Session) :
    takeLine settings session line = runLine settings session (Text.strip line) := by
  simp only [IsProgram, quietCommands, List.mem_cons, List.not_mem_nil, or_false, not_or]
    at isProgram
  obtain ⟨exit, blank, help, state, save⟩ := isProgram
  simp only [takeLine, beq_iff_eq, exit, blank, help, state, save, if_false]

theorem showState_cases (session : Session) :
    (∃ output, showState session = .prompt session output) ∨
      ∃ escape output, showState session = .escaped escape output session.files := by
  rw [showState]
  split
  · exact .inr ⟨_, _, rfl⟩
  · split
    · exact .inr ⟨_, _, rfl⟩
    · exact .inl ⟨_, rfl⟩

theorem saveSession_cases (path : HostText) (session : Session) :
    (∃ files output, saveSession path session = .prompt { session with files := files } output) ∨
      ∃ escape output files, saveSession path session = .escaped escape output files := by
  rw [saveSession]
  split
  · exact .inr ⟨_, _, _, rfl⟩
  · split
    · exact .inr ⟨_, _, _, rfl⟩
    · exact .inl ⟨_, _, rfl⟩

/-- Between two prompts the state and the drawing stay the same, or a program runs to its end and
leaves its state, without the mark of a stop, and its drawing. -/
inductive Answers (session next : Session) : Prop
  | quiet (state : next.state = session.state) (canvas : next.canvas = session.canvas)
  | ran (interpreter : Interpreter) (program : Node) (final : State)
      (ended : (interpreter.runTree program session.canvas session.state).result = .ok final)
      (state : next.state = { final with terminated := false })
      (canvas : next.canvas = (interpreter.runTree program session.canvas session.state).canvas)

section

variable {settings : Settings} {session next : Session} {output : String}

theorem runProgram_answers {interpreter : Interpreter} {program : Node} {before : String}
    (ran : runProgram interpreter session program before = .prompt next output) :
    Answers session next := by
  rw [runProgram] at ran
  split at ran
  · next final ended =>
      cases ran
      exact .ran interpreter program final ended rfl rfl
  · cases ran
    exact .quiet rfl rfl
  · cases ran
  · split at ran
    · cases ran
      exact .quiet rfl rfl
    · cases ran

theorem runLine_answers {code : List Char}
    (ran : runLine settings session code = .prompt next output) : Answers session next := by
  rw [runLine] at ran
  split at ran
  · cases ran
    exact .quiet rfl rfl
  · cases ran
  · dsimp only at ran
    split at ran
    · exact runProgram_answers ran
    · cases ran

/-- A quiet command comes back to the prompt with the same state and drawing, unless it cannot show
the state or save the drawing. -/
theorem takeLine_quiet (settings : Settings) (session : Session) {line : List Char}
    (quiet : String.ofList (Text.strip line) ∈ quietCommands) :
    (∃ next output, takeLine settings session line = .prompt next output ∧
        next.state = session.state ∧ next.canvas = session.canvas) ∨
      String.ofList (Text.strip line) ∈ [":state", ":save"] ∧
        ∃ escape output files, takeLine settings session line = .escaped escape output files := by
  rw [takeLine]
  simp only [quietCommands, List.mem_cons, List.not_mem_nil, or_false] at quiet
  rcases quiet with blank | help | state | save
  · rw [blank]
    exact .inl ⟨session, _, rfl, rfl, rfl⟩
  · rw [help]
    exact .inl ⟨session, _, rfl, rfl, rfl⟩
  · rw [state]
    rcases showState_cases session with ⟨output, shown⟩ | ⟨escape, output, escaped⟩
    · exact .inl ⟨session, output, shown, rfl, rfl⟩
    · exact .inr ⟨by simp, escape, output, _, escaped⟩
  · rw [save]
    cases settings.output with
    | blank => exact .inr ⟨by simp, _, _, _, rfl⟩
    | value path =>
        rcases saveSession_cases path session with
          ⟨files, output, saved⟩ | ⟨escape, output, files, escaped⟩
        · exact .inl ⟨_, output, saved, rfl, rfl⟩
        · exact .inr ⟨by simp, escape, output, files, escaped⟩

theorem takeLine_answers {line : List Char}
    (taken : takeLine settings session line = .prompt next output) : Answers session next := by
  by_cases isProgram : IsProgram line
  · rw [takeLine_of_isProgram isProgram] at taken
    exact runLine_answers taken
  · rcases List.mem_cons.mp (not_not.mp isProgram) with exit | quiet
    · rw [takeLine, exit] at taken
      cases taken
    · rcases takeLine_quiet settings session quiet with
        ⟨other, text, same, state, canvas⟩ | ⟨-, escape, text, files, escaped⟩
      · rw [same] at taken
        cases taken
        exact .quiet state canvas
      · rw [escaped] at taken
        cases taken

end

/-- At a prompt no stop is pending, no name is bound, and the canvas accepts every drawing. -/
structure Session.Ready (session : Session) : Prop where
  terminated : session.state.terminated = false
  bindings : session.state.bindings = []
  accepts : session.canvas.Accepts

/-- A later prompt keeps every procedure, and its drawing follows the earlier one. -/
structure Session.Extends (earlier later : Session) : Prop where
  bound : ∀ name, (earlier.state.procedures.lookup name).isSome →
    (later.state.procedures.lookup name).isSome
  drawn : ∃ segments, Canvas.Follows segments earlier.canvas later.canvas

theorem Session.Extends.trans {first second third : Session} (front : first.Extends second)
    (back : second.Extends third) : first.Extends third := by
  obtain ⟨segments, earlier⟩ := front.drawn
  obtain ⟨others, later⟩ := back.drawn
  constructor
  · intro name found
    exact back.bound name (front.bound name found)
  · exact ⟨segments ++ others, earlier.trans later⟩

/-- A program that runs to its end is isolated from the bindings and keeps the procedures. -/
theorem runTree_isolated {interpreter : Interpreter} {program : Node} {canvas : Canvas}
    {state final : State}
    (ended : (interpreter.runTree program canvas state).result = .ok final) :
    Isolated program.definedNames state final := by
  obtain ⟨progress, ran, -⟩ := (interpreter.runTree_ok_iff state).mp ⟨ended, rfl⟩
  obtain ⟨events, run, -⟩ := evaluates_of_evaluate ran
  exact run.isolated rfl

/-- One line keeps the session ready and only adds to it. -/
theorem Session.Ready.answers {session next : Session} (ready : session.Ready)
    (answers : Answers session next) : next.Ready ∧ session.Extends next := by
  cases answers with
  | quiet state canvas =>
      constructor
      · constructor
        · rw [state, ready.terminated]
        · rw [state, ready.bindings]
        · rw [canvas]
          exact ready.accepts
      · constructor
        · intro name found
          rwa [state]
        · rw [canvas]
          exact ⟨[], Canvas.follows_nil ready.accepts⟩
  | ran interpreter program final ended state canvas =>
      have isolated := runTree_isolated ended
      have drawn := ((interpreter.runTree_replays session.state program).follows ready.accepts).2
      rw [← canvas] at drawn
      constructor
      · constructor
        · rw [state]
        · rw [state]
          exact isolated.bindings.trans ready.bindings
        · exact drawn.accepts
      · constructor
        · intro name found
          rw [state]
          exact isolated.bound name found
        · exact ⟨_, drawn⟩

/-- Any number of lines keeps the session ready and only adds to it. -/
theorem Session.Reaches.keeps {settings : Settings} {session last : Session}
    {lines : List (List Char)} {shown : String}
    (reaches : Session.Reaches settings session lines shown last) (ready : session.Ready) :
    last.Ready ∧ session.Extends last := by
  induction reaches with
  | start session => exact ⟨ready, fun _ found => found, [], Canvas.follows_nil ready.accepts⟩
  | next taken _ inductionHypothesis =>
      obtain ⟨onward, first⟩ := ready.answers (takeLine_answers taken)
      obtain ⟨ended, others⟩ := inductionHypothesis onward
      exact ⟨ended, first.trans others⟩

theorem Session.begin_ready {settings : Settings} {frames : Nat} {files : FileSystem}
    {session : Session} (started : Session.begin settings frames files = .ok session) :
    session.Ready := by
  obtain ⟨state, initial, same⟩ := Fallible.bind_eq_ok_iff.mp started
  obtain ⟨x, -, more⟩ := Fallible.bind_eq_ok_iff.mp initial
  obtain ⟨y, -, final⟩ := Fallible.bind_eq_ok_iff.mp more
  cases final
  cases same
  exact ⟨rfl, rfl, trivial⟩

section

variable {settings : Settings} {session : Session} {line : List Char} {program : Node}
  {interpreter : Interpreter}

/-- A line that cannot be read is reported, and the session goes on as it was. -/
theorem takeLine_of_diagnosed {diagnostic : Diagnostic} (isProgram : IsProgram line)
    (unread : Program.readChars (levelsWithin session.frames) (Text.strip line) "<repl>" =
      .error (.diagnosed diagnostic)) :
    takeLine settings session line =
      .prompt session s!"Parse error: {diagnostic.report}\n" := by
  rw [takeLine_of_isProgram isProgram, runLine, unread]

theorem takeLine_of_read (session : Session) (isProgram : IsProgram line)
    (found : Program.readChars (levelsWithin session.frames) (Text.strip line) "<repl>" =
      .ok program)
    (ready : settings.interpreter = .ok interpreter) :
    takeLine settings session line = runProgram interpreter session program
      (settings.traced (Program.readTrace program "<repl>")) := by
  rw [takeLine_of_isProgram isProgram, runLine, found]
  simp only [ready]

/-- A program that fails at run time is reported, and the session goes on as it was but for the
frames, which its evaluation may have raised. -/
theorem takeLine_of_runtime {error : RuntimeError} (isProgram : IsProgram line)
    (found : Program.readChars (levelsWithin session.frames) (Text.strip line) "<repl>" =
      .ok program)
    (ready : settings.interpreter = .ok interpreter)
    (failed : (interpreter.runTree program session.canvas session.state).result =
      .error (.failing (.runtime error))) :
    ∃ output, takeLine settings session line = .prompt (session.raise interpreter) output := by
  rw [takeLine_of_read session isProgram found ready]
  simp only [runProgram, failed, failureEscape]
  exact ⟨_, rfl⟩

/-- A program that ends in a state leaves the session with its state and its canvas. -/
theorem takeLine_of_ok {final : State} (isProgram : IsProgram line)
    (found : Program.readChars (levelsWithin session.frames) (Text.strip line) "<repl>" =
      .ok program)
    (ready : settings.interpreter = .ok interpreter)
    (ended : (interpreter.runTree program session.canvas session.state).result = .ok final) :
    ∃ output, takeLine settings session line =
      .prompt
        { session.raise interpreter with
          state := { final with terminated := false }
          canvas := (interpreter.runTree program session.canvas session.state).canvas }
        output := by
  rw [takeLine_of_read session isProgram found ready]
  simp only [runProgram, ended]
  exact ⟨_, rfl⟩

end

/-- What a session keeps from prompt to prompt. Whatever lines it has taken, no stop is pending at
the prompt and no name is bound. A line that is blank, or asks for help, for the state or for the
drawing to be saved, leaves the state and the drawing as they were; only a state that cannot be
shown and a drawing that cannot be saved end the session. A line that cannot be read or fails at run
time leaves all as it was, but for the frames within which later lines are read, which an evaluation
may raise. A line whose program ends in a state leaves that state without the mark
of a stop, and its drawing follows the earlier one with exactly the segments that the program draws
on its own from the state at the prompt. At all later prompts every procedure is still defined, and
the drawing follows the present one. -/
theorem session_invariant {settings : Settings} {frames : Nat} {files : FileSystem}
    {begun session : Session} {lines : List (List Char)} {shown : String}
    (started : Session.begin settings frames files = .ok begun)
    (reached : Session.Reaches settings begun lines shown session) :
    (∀ rest, takeLines settings begun bannerText (lines ++ rest) =
      takeLines settings session (bannerText ++ shown) rest) ∧
    session.state.terminated = false ∧ session.state.bindings = [] ∧
    (∀ line, String.ofList (Text.strip line) ∈ quietCommands →
      (∃ next output, takeLine settings session line = .prompt next output ∧
          next.state = session.state ∧ next.canvas = session.canvas) ∨
        String.ofList (Text.strip line) ∈ [":state", ":save"] ∧
          ∃ escape output files, takeLine settings session line = .escaped escape output files) ∧
    (∀ line diagnostic, IsProgram line →
      Program.readChars (levelsWithin session.frames) (Text.strip line) "<repl>" =
        .error (.diagnosed diagnostic) →
      ∃ output, takeLine settings session line = .prompt session output) ∧
    (∀ line program interpreter, IsProgram line →
      Program.readChars (levelsWithin session.frames) (Text.strip line) "<repl>" = .ok program →
      settings.interpreter = .ok interpreter →
      let alone := interpreter.runTree program .blank session.state
      (∀ error, alone.result = .error (.failing (.runtime error)) →
        ∃ output, takeLine settings session line = .prompt (session.raise interpreter) output) ∧
      ∀ final, alone.result = .ok final →
        ∃ next output, takeLine settings session line = .prompt next output ∧
          next.state = { final with terminated := false } ∧
          Canvas.Follows alone.canvas.segments session.canvas next.canvas) ∧
    ∀ more text later, Session.Reaches settings session more text later →
      (∀ name, (session.state.procedures.lookup name).isSome →
        (later.state.procedures.lookup name).isSome) ∧
      ∃ drawn, Canvas.Follows drawn session.canvas later.canvas := by
  have ready := (reached.keeps (Session.begin_ready started)).1
  refine ⟨takeLines_of_reaches reached bannerText, ready.terminated, ready.bindings, ?_, ?_, ?_, ?_⟩
  · intro line quiet
    exact takeLine_quiet settings session quiet
  · intro line diagnostic isProgram unread
    exact ⟨_, takeLine_of_diagnosed isProgram unread⟩
  · intro line program interpreter isProgram found running alone
    have same := (interpreter.runTree_replays session.state program).follows ready.accepts
    constructor
    · intro error failed
      exact takeLine_of_runtime isProgram found running (same.1.trans failed)
    · intro final ended
      obtain ⟨output, taken⟩ := takeLine_of_ok isProgram found running (same.1.trans ended)
      exact ⟨_, output, taken, rfl, same.2⟩
  · intro more text later onward
    have grown := (onward.keeps ready).2
    exact ⟨grown.bound, grown.drawn⟩

/-- A session with these settings starts at the origin. -/
def originSettings : Settings :=
  { startX := some (.whole 0), startY := some (.whole 0) }

theorem readChars_of_trimmed {levels : Nat} {text : String} {node : Node}
    (trimmed : Text.strip text.toList = text.toList)
    (found : Program.read levels text "<repl>" = .ok node) :
    Program.readChars levels (Text.strip text.toList) "<repl>" = .ok node := by
  rw [trimmed]
  exact found

/-- The second line fails in the procedure that the first one defines. -/
theorem session_invariant_stepFails :
    ∃ begun session later shown text,
      Session.begin originSettings baseFrames ⟨[], [], none⟩ = .ok begun ∧
      Session.Reaches originSettings begun ["to step :n fd :n / :n end".toList] shown session ∧
      Session.Reaches originSettings session ["step :size".toList] text later ∧
      session.state.terminated = false ∧ session.state.bindings = [] ∧
      later.state = session.state ∧ later.canvas = session.canvas ∧
      (later.state.procedures.lookup "step").isSome := by
  have ready : originSettings.interpreter = .ok {} := rfl
  obtain ⟨begun, started, origin, frames⟩ : ∃ begun,
      Session.begin originSettings baseFrames ⟨[], [], none⟩ = .ok begun ∧
        begun.state = .origin ∧ begun.frames = baseFrames := ⟨_, rfl, rfl, rfl⟩
  have definition := readChars_of_trimmed (by decide) (Program.read_stepDefinition 140 "<repl>")
  rw [show 140 + 2 = levelsWithin begun.frames by rw [frames]; rfl] at definition
  have defined : (({} : Interpreter).runTree (.define "step" ["n"] stepBody) begun.canvas
      begun.state).result = .ok (State.origin.define "step" ["n"] stepBody) := by
    rw [origin]
    rfl
  obtain ⟨output, first⟩ := takeLine_of_ok (by decide) definition ready defined
  generalize reached : Session.mk _ _ _ _ = session at first
  have reaches : Session.Reaches originSettings begun ["to step :n fd :n / :n end".toList] _
      session := .next first (.start session)
  obtain ⟨-, terminated, bindings, -, -, programs, later⟩ := session_invariant started reaches
  have levels : 1170 + 1 = levelsWithin session.frames := by
    rw [← reached]
    simp only [Session.raise, frames]
    decide +kernel
  have call := readChars_of_trimmed (by decide) (Program.read_stepCall 1170 "<repl>")
  rw [levels] at call
  have failed : (({} : Interpreter).runTree (.call "step" [.var "size"]) .blank
      session.state).result =
        .error (.failing (.runtime (.divisionByZero (.div (.var "n") (.var "n"))))) := by
    rw [← reached]
    rfl
  obtain ⟨text, second⟩ := (programs _ _ _ (by decide) call ready).1 _ failed
  have onward : Session.Reaches originSettings session ["step :size".toList] _
      (session.raise {}) := .next second (.start _)
  refine ⟨begun, session, _, _, _, started, reaches, onward, terminated, bindings, rfl, rfl, ?_⟩
  apply (later _ _ _ onward).1
  rw [← reached]
  rfl

end Turtle.CommandLine
