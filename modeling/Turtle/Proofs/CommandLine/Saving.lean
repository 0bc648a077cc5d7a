import Turtle.CommandLine.Execution
import Turtle.Proofs.BufferedRun
import Turtle.Proofs.Evaluation.Refusal
import Turtle.Proofs.Files
import Turtle.Proofs.Source.Coverage

/-
This file follows a program from its text to the file of its drawing. The file is opened after the
whole program has been drawn, and no other file is touched. Opening empties the file, so that an
image that cannot be made or does not fit leaves it empty or cut off.
-/

namespace Turtle

namespace Interpreter

variable (interpreter : Interpreter) (node : Node) (state : State)

/-- A buffered run traces what direct evaluation traces, whatever the canvas. -/
theorem runTree_trace (canvas : Canvas) :
    (interpreter.runTree node canvas state).trace =
      (interpreter.evaluateDirectly node .blank state).trace := by
  rw [runTree, evaluateDirectly, evaluateWithin]
  generalize evaluate interpreter.limits interpreter.limits.frames 0 node state _ = outcome
  obtain ⟨failure | final, progress⟩ := outcome
  · rfl
  · dsimp only
    generalize canvas.replay progress.canvas.segments = replayed
    obtain ⟨error | done, next⟩ := replayed <;> rfl

/-- On a canvas that accepts every drawing, a buffered run ends as direct evaluation on a blank
recording does: in the same state with the same segments, or in the same failure up to a shortage
of frames. -/
theorem runTree_cases {canvas : Canvas} (accepts : canvas.Accepts) :
    (∃ final, (interpreter.evaluateDirectly node .blank state).result = .ok final ∧
        (interpreter.runTree node canvas state).result = .ok final ∧
        Canvas.Follows (interpreter.evaluateDirectly node .blank state).canvas.segments canvas
          (interpreter.runTree node canvas state).canvas) ∨
      ∃ failure,
        (interpreter.evaluateDirectly node .blank state).result = .error (.failing failure) ∧
        (interpreter.runTree node canvas state).result =
          .error (.failing (nestingFailure node failure)) := by
  obtain ⟨result, drawn, events, drawable, runs⟩ := interpreter.exists_drawn node state
  obtain ⟨blank, buffering, recorded⟩ := runs Canvas.blank_accepts
  have segments := Canvas.segments_of_follows recorded
  simp only [evaluateDirectly, evaluateWithin, runTree, buffering, segments]
  cases result with
  | error failure => exact .inr ⟨failure, rfl, rfl⟩
  | ok final =>
      obtain ⟨last, replayed, follows⟩ := (Canvas.follows_nil accepts).replay drawable
      simp only [replayed]
      exact .inl ⟨final, rfl, rfl, follows⟩

variable {interpreter node state}

theorem runTree_failed {canvas : Canvas} (accepts : canvas.Accepts) {failure : Failure}
    (failed : (interpreter.evaluateDirectly node .blank state).result =
      .error (.failing failure)) :
    (interpreter.runTree node canvas state).result =
      .error (.failing (nestingFailure node failure)) := by
  rcases interpreter.runTree_cases node state accepts with ⟨final, ended, -⟩ | ⟨other, same, ran⟩
  · rw [failed] at ended
    cases ended
  · rw [failed] at same
    cases same
    exact ran

theorem runTree_ended {canvas : Canvas} (accepts : canvas.Accepts) {final : State}
    (ended : (interpreter.evaluateDirectly node .blank state).result = .ok final) :
    (interpreter.runTree node canvas state).result = .ok final ∧
      Canvas.Follows (interpreter.evaluateDirectly node .blank state).canvas.segments canvas
        (interpreter.runTree node canvas state).canvas := by
  rcases interpreter.runTree_cases node state accepts with
    ⟨other, same, ran, follows⟩ | ⟨failure, failed, -⟩
  · rw [ended] at same
    cases same
    exact ⟨ran, follows⟩
  · rw [ended] at failed
    cases failed

end Interpreter

namespace HostText

/-- A text without halves is encoded, wherever it stands. -/
theorem exists_encodeAt_iff {text : HostText} {position : Nat} :
    (∃ encoded, text.encodeAt position = .ok encoded) ↔
      ∀ symbol ∈ text, symbol.isHalf = false := by
  rw [encodeAt, Fallible.exists_map_iff]
  induction text generalizing position with
  | nil => simp [encodeFrom]
  | cons symbol rest inductionHypothesis =>
      cases symbol with
      | half code => simp [encodeFrom, Symbol.isHalf]
      | char value =>
          rw [encodeFrom, Fallible.exists_map_iff, inductionHypothesis, List.forall_mem_cons]
          simp [Symbol.isHalf]

theorem isHalf_of_mem_ofString {text : String} :
    ∀ symbol ∈ ofString text, symbol.isHalf = false := by
  intro symbol member
  obtain ⟨char, -, rfl⟩ := List.mem_map.mp member
  rfl

end HostText

namespace CommandLine

open Fallible Turtle.Derivation

/-- The saving of an image ends in one of these ways. The file is opened, and thereby emptied,
before the image is made, and is cut off where there is no room for all of it. -/
inductive Saving (canvas : Canvas) (path : HostText) (files : FileSystem) :
    Except SaveError Unit × FileSystem → Prop
  | unencodable {error : EncodeError} (unencoded : path.pathBytes = .error error) :
      Saving canvas path files (.error (.unencodable error), files)
  | unopened {bytes : Bytes} {fault : FileFault} (encoded : path.pathBytes = .ok bytes)
      (refused : files.openNew bytes = .error fault) :
      Saving canvas path files (.error (.file fault), files)
  | emptied {bytes : Bytes} {place : List Bytes} {error : CanvasError}
      (encoded : path.pathBytes = .ok bytes) (opened : files.openNew bytes = .ok place)
      (failed : canvas.persist.1 = .error error) :
      Saving canvas path files (.error (.canvas error), files.store place [])
  | cut {bytes : Bytes} {place : List Bytes} {image : String} {room : Nat}
      (encoded : path.pathBytes = .ok bytes) (opened : files.openNew bytes = .ok place)
      (made : canvas.persist.1 = .ok image) (left : files.room = some room)
      (short : room < (Text.Utf8.encode image).length) :
      Saving canvas path files
        (.error (.file .noSpace), files.store place ((Text.Utf8.encode image).take room))
  | saved {bytes : Bytes} {place : List Bytes} {image : String}
      (encoded : path.pathBytes = .ok bytes) (opened : files.openNew bytes = .ok place)
      (made : canvas.persist.1 = .ok image)
      (fits : files.Fits (Text.Utf8.encode image).length) :
      Saving canvas path files (.ok (), files.store place (Text.Utf8.encode image))

/-- The list of the ways is exact. -/
theorem saving_iff {canvas : Canvas} {path : HostText} {files : FileSystem}
    {outcome : Except SaveError Unit × FileSystem} :
    Saving canvas path files outcome ↔ saveImage canvas path files = outcome := by
  constructor
  · intro saving
    cases saving with
    | unencodable unencoded => simp only [saveImage, unencoded]
    | unopened encoded refused => simp only [saveImage, encoded, refused]
    | emptied encoded opened failed => simp only [saveImage, encoded, opened, failed]
    | @cut _ place _ room encoded opened made left short =>
        have filled := @FileSystem.fill_of_short (files.store place []) _ _ left short place
        simp only [saveImage, encoded, opened, made, filled, FileSystem.store_store]
        rfl
    | @saved _ place _ encoded opened made fits =>
        have filled := @FileSystem.fill_of_fits (files.store place []) _ fits place
        simp only [saveImage, encoded, opened, made, filled, FileSystem.store_store]
        rfl
  · rintro rfl
    rw [saveImage]
    cases encoded : path.pathBytes with
    | error error => exact .unencodable encoded
    | ok bytes =>
        dsimp only
        cases opened : files.openNew bytes with
        | error fault => exact .unopened encoded opened
        | ok place =>
            dsimp only
            cases made : canvas.persist.1 with
            | error error => exact .emptied encoded opened made
            | ok image =>
                dsimp only
                by_cases fits : files.Fits (Text.Utf8.encode image).length
                · rw [@FileSystem.fill_of_fits (files.store place []) _ fits,
                    FileSystem.store_store]
                  exact .saved encoded opened made fits
                · obtain ⟨room, left, short⟩ := FileSystem.not_fits_iff.mp fits
                  rw [@FileSystem.fill_of_short (files.store place []) _ _ left short,
                    FileSystem.store_store]
                  exact .cut encoded opened made left short

/-- Direct evaluation draws on a blank recording, from the state and within the limits that the
settings give. -/
def Settings.direct (settings : Settings) (program : Node) : Except ArithmeticError Run := do
  let (interpreter, start) ← prepare settings
  return interpreter.evaluateDirectly program .blank start

theorem Settings.direct_ok_iff {settings : Settings} {program : Node} {run : Run} :
    settings.direct program = .ok run ↔
      ∃ interpreter start, prepare settings = .ok (interpreter, start) ∧
        interpreter.evaluateDirectly program .blank start = run := by
  rw [direct, bind_eq_ok_iff]
  constructor
  · rintro ⟨⟨interpreter, start⟩, ready, same⟩
    exact ⟨interpreter, start, ready, Except.ok.inj same⟩
  · rintro ⟨interpreter, start, ready, rfl⟩
    exact ⟨(interpreter, start), ready, rfl⟩

theorem Settings.direct_error_iff {settings : Settings} {program : Node}
    {error : ArithmeticError} :
    settings.direct program = .error error ↔ prepare settings = .error error := by
  rw [direct]
  cases prepare settings with
  | error cause =>
      constructor
      · rintro ⟨⟩
        rfl
      · rintro ⟨⟩
        rfl
  | ok prepared => exact iff_of_false nofun nofun

theorem interpreter_of_prepare {settings : Settings} {interpreter : Interpreter} {start : State}
    (ready : prepare settings = .ok (interpreter, start)) :
    settings.interpreter = .ok interpreter := by
  obtain ⟨state, -, more⟩ := bind_eq_ok_iff.mp ready
  obtain ⟨other, limited, same⟩ := bind_eq_ok_iff.mp more
  cases same
  exact limited

/-- Behind the count of the segments stands the final state, when a trace is asked for. -/
def Settings.closing (settings : Settings) (final : State) : Except ArithmeticError String :=
  if settings.debug then finalText final else .ok ""

/-- Only a trace asks for a text of the final state, which may not exist. -/
theorem Settings.closing_error {settings : Settings} {final : State} {error : ArithmeticError}
    (failed : settings.closing final = .error error) :
    settings.debug = true ∧ finalText final = .error error := by
  rw [closing] at failed
  split at failed
  · next debug => exact ⟨debug, failed⟩
  · cases failed

theorem reportSaved_eq (settings : Settings) (path : HostText) (size : Nat) (final : State)
    (output : String) (files : FileSystem) :
    reportSaved settings path size final output files =
      match pathLine s!"Drew {size} segments to " path "" with
      | .error error => .escape (.unencodable error) output files
      | .ok line =>
          match settings.closing final with
          | .ok report => .exit 0 (output ++ line ++ report) files
          | .error error => .escape (.arithmetic error) (output ++ line) files := by
  rw [reportSaved]
  cases pathLine s!"Drew {size} segments to " path "" with
  | error error => rfl
  | ok line =>
      dsimp only
      rw [Settings.closing]
      cases settings.debug with
      | true => cases finalText final <;> rfl
      | false => simp

/-- A page with these lines. -/
def Settings.drawing (settings : Settings) (lines : List String) : Canvas :=
  .direct (.svg settings.page lines.toArray)

/-- The document with these lines. -/
def Settings.image (settings : Settings) (lines : List String) : Except CanvasError String :=
  Surface.document settings.page lines.toArray

/-- A drawing has an image when the size of the page and the width of the lines have texts and the
name of the colour holds no halves. -/
theorem Settings.exists_image_iff {settings : Settings} {lines : List String} :
    (∃ document, settings.image lines = .ok document) ↔
      (∃ text, settings.width.checkedText = .ok text) ∧
      (∃ text, settings.height.checkedText = .ok text) ∧
      (∃ text, settings.lineWidth.checkedText = .ok text) ∧
      ∀ symbol ∈ settings.stroke, symbol.isHalf = false := by
  have header : (∃ text, Surface.headerText settings.page = .ok text) ↔
      (∃ text, settings.width.checkedText = .ok text) ∧
        ∃ text, settings.height.checkedText = .ok text :=
    exists_map₂_iff
  have parts : (∃ document, settings.image lines = .ok document) ↔ _ :=
    exists_bind_iff fun _ => exists_bind_iff fun _ =>
      exists_map_iff.trans (exists_mapError_iff.trans HostText.exists_encodeAt_iff)
  rw [parts, exists_mapError_iff, exists_mapError_iff, header, and_assoc]
  rfl

/-- Direct evaluation of the program ends in the final state, each of its segments has a line, and
there is a path for the drawing. -/
structure Drawn (settings : Settings) (program : Node) (run : Run) (final : State)
    (path : HostText) (lines : List String) : Prop where
  evaluated : settings.direct program = .ok run
  ended : run.result = .ok final
  given : settings.output = .value path
  texts : run.canvas.segments.mapM Surface.lineElement = .ok lines

/-- The path leads to the image of the drawing: a document with one line for each segment, in their
order. All else is as it was. -/
structure Stores (settings : Settings) (program : Node) (before after : FileSystem) (run : Run)
    (final : State) (path : HostText) (lines : List String) : Prop extends
    Drawn settings program run final path lines where
  saved : ∃ bytes document, path.pathBytes = .ok bytes ∧ settings.image lines = .ok document ∧
    before.Saves after bytes (Text.Utf8.encode document)

/-- The count of the segments is shown in front of the path once the drawing has been saved. -/
def countText (run : Run) : String :=
  s!"Drew {run.canvas.segments.length} segments to "

/-- The image that a drawing leaves on an empty page has one line for each of its segments. -/
theorem Settings.canvas_of_follows {settings : Settings} {segments : List Segment}
    {canvas : Canvas} (follows : Canvas.Follows segments settings.canvas canvas) :
    ∃ lines, segments.mapM Surface.lineElement = .ok lines ∧ canvas = settings.drawing lines := by
  obtain ⟨lines, texts, same⟩ := follows
  exact ⟨lines, texts, by simpa [Settings.drawing] using same⟩

/-- The drawing of a program ends in one of these ways, each told by what direct evaluation of the
program does. -/
inductive Concludes (settings : Settings) (program : Node) (name output : String)
    (files : FileSystem) : Execution → Prop
  | unprepared {error : ArithmeticError} (failed : settings.direct program = .error error) :
      Concludes settings program name output files (.escape (.arithmetic error) output files)
  | fails {interpreter : Interpreter} {run : Run} {failure : Failure} {error : RuntimeError}
      (evaluated : settings.direct program = .ok run)
      (limited : settings.interpreter = .ok interpreter)
      (failed : run.result = .error (.failing failure))
      (reported : Interpreter.nestingFailure program failure = .runtime error) :
      Concludes settings program name output files
        (reportRuntimeError settings interpreter.limits.frames name (output ++ run.trace) error
          files)
  | overflows {run : Run} {error : ArithmeticError} (evaluated : settings.direct program = .ok run)
      (failed : run.result = .error (.failing (.arithmetic error))) :
      Concludes settings program name output files
        (.escape (.arithmetic error) (output ++ run.trace) files)
  | pathless {run : Run} {final : State} (evaluated : settings.direct program = .ok run)
      (ended : run.result = .ok final) (blank : settings.output = .blank) :
      Concludes settings program name output files
        (.escape .blankOutput (output ++ run.trace) files)
  | drawn {run : Run} {final : State} {path : HostText} {lines : List String}
      (drawn : Drawn settings program run final path lines) :
      Concludes settings program name output files
        (saveDrawing settings path final (settings.drawing lines) (output ++ run.trace) files)

theorem Concludes.drawProgram_eq {settings : Settings} {program : Node} {name output : String}
    {files : FileSystem} {execution : Execution}
    (concludes : Concludes settings program name output files execution) :
    drawProgram settings program name output files = execution := by
  have accepts : settings.canvas.Accepts := trivial
  cases concludes with
  | unprepared failed => rw [drawProgram, Settings.direct_error_iff.mp failed]
  | @fails interpreter _ _ _ evaluated limited failed reported =>
      obtain ⟨other, start, ready, rfl⟩ := Settings.direct_ok_iff.mp evaluated
      obtain rfl : interpreter = other :=
        Except.ok.inj (limited.symm.trans (interpreter_of_prepare ready))
      rw [drawProgram, ready]
      dsimp only
      rw [interpreter.runTree_trace, interpreter.runTree_failed accepts failed, reported]
      rfl
  | overflows evaluated failed =>
      obtain ⟨interpreter, start, ready, rfl⟩ := Settings.direct_ok_iff.mp evaluated
      rw [drawProgram, ready]
      dsimp only
      rw [interpreter.runTree_trace, interpreter.runTree_failed accepts failed]
      rfl
  | pathless evaluated ended blank =>
      obtain ⟨interpreter, start, ready, rfl⟩ := Settings.direct_ok_iff.mp evaluated
      rw [drawProgram, ready]
      dsimp only
      rw [interpreter.runTree_trace, (interpreter.runTree_ended accepts ended).1, blank]
      rfl
  | drawn drawn =>
      obtain ⟨interpreter, start, ready, rfl⟩ := Settings.direct_ok_iff.mp drawn.evaluated
      obtain ⟨ran, follows⟩ := interpreter.runTree_ended accepts drawn.ended
      obtain ⟨lines, texts, canvas⟩ := Settings.canvas_of_follows follows
      cases texts.symm.trans drawn.texts
      rw [drawProgram, ready]
      dsimp only
      rw [interpreter.runTree_trace, ran, drawn.given, canvas]
      rfl

theorem drawProgram_concludes (settings : Settings) (program : Node) (name output : String)
    (files : FileSystem) :
    Concludes settings program name output files
      (drawProgram settings program name output files) := by
  have accepts : settings.canvas.Accepts := trivial
  rw [drawProgram]
  cases ready : prepare settings with
  | error error => exact .unprepared (Settings.direct_error_iff.mpr ready)
  | ok prepared =>
      obtain ⟨interpreter, start⟩ := prepared
      have evaluated : settings.direct program =
          .ok (interpreter.evaluateDirectly program .blank start) :=
        Settings.direct_ok_iff.mpr ⟨interpreter, start, ready, rfl⟩
      dsimp only
      rw [interpreter.runTree_trace]
      rcases interpreter.runTree_cases program start accepts with
        ⟨final, ended, ran, follows⟩ | ⟨failure, failed, ran⟩
      · obtain ⟨lines, texts, canvas⟩ := Settings.canvas_of_follows follows
        simp only [ran, canvas]
        cases given : settings.output with
        | blank => exact .pathless evaluated ended given
        | value path => exact .drawn ⟨evaluated, ended, given, texts⟩
      · simp only [ran]
        cases failure with
        | runtime error => exact .fails evaluated (interpreter_of_prepare ready) failed rfl
        | arithmetic error => exact .overflows evaluated failed
        | canvas error =>
            exact absurd failed (interpreter.evaluateDirectly_ne_canvas program start rfl error)
        | outOfFrames => exact .fails evaluated (interpreter_of_prepare ready) failed rfl

/-- A source text is rejected, has a literal that is too long, or is read as a program, which is
shown or drawn. -/
inductive Executes (settings : Settings) (frames : Nat) (text : List Char) (name : String)
    (files : FileSystem) : Execution → Prop
  | rejected {diagnostic : Diagnostic}
      (unread : Program.readChars (levelsWithin frames) text name =
        .error (.diagnosed diagnostic)) :
      Executes settings frames text name files
        (.exit 1 s!"Parse error in '{name}': {diagnostic.report}\n" files)
  | tooLong {digits : Nat}
      (unread : Program.readChars (levelsWithin frames) text name =
        .error (.literalTooLong digits)) :
      Executes settings frames text name files (.escape (.literalTooLong digits) "" files)
  | shown {program : Node}
      (found : Program.readChars (levelsWithin frames) text name = .ok program)
      (parse : settings.parse = true) :
      Executes settings frames text name files
        (showProgram program frames name (settings.traced (Program.readTrace program name)) files)
  | drawn {program : Node} {execution : Execution}
      (found : Program.readChars (levelsWithin frames) text name = .ok program)
      (parse : settings.parse = false)
      (concludes : Concludes settings program name
        (settings.traced (Program.readTrace program name)) files execution) :
      Executes settings frames text name files execution

/-- The list of the ways is exact. -/
theorem executes_iff {settings : Settings} {frames : Nat} {text : List Char} {name : String}
    {files : FileSystem} {execution : Execution} :
    Executes settings frames text name files execution ↔
      runSource settings frames text name files = execution := by
  constructor
  · intro executes
    cases executes with
    | rejected unread | tooLong unread => rw [runSource, unread]
    | shown found parse => simp only [runSource, found, parse, if_true]
    | drawn found parse concludes =>
        simp only [runSource, found, parse]
        exact concludes.drawProgram_eq
  · rintro rfl
    cases found : Program.readChars (levelsWithin frames) text name with
    | error error =>
        rw [runSource, found]
        cases error with
        | diagnosed diagnostic => exact .rejected found
        | literalTooLong digits => exact .tooLong found
    | ok program =>
        cases parse : settings.parse with
        | true =>
            simp only [runSource, found, parse]
            exact .shown found parse
        | false =>
            simp only [runSource, found, parse]
            exact .drawn found parse (drawProgram_concludes ..)

/-- A program that is only shown leaves the files alone. -/
theorem showProgram_files (program : Node) (frames : Nat) (name output : String)
    (files : FileSystem) : (showProgram program frames name output files).files = files := by
  rw [showProgram]
  cases program.procedureNames frames with
  | none => rfl
  | some procedures =>
      cases program.outline frames 0 with
      | none => rfl
      | some outline => cases program.source frames <;> rfl

theorem reportRuntimeError_files (settings : Settings) (frames : Nat) (name output : String)
    (error : RuntimeError) (files : FileSystem) :
    (reportRuntimeError settings frames name output error files).files = files := by
  rw [reportRuntimeError]
  split
  · split <;> rfl
  · rfl

theorem reportRuntimeError_ending (settings : Settings) (frames : Nat) (name output : String)
    (error : RuntimeError) (files : FileSystem) :
    (reportRuntimeError settings frames name output error files).ending =
      if settings.debug = true ∧ error.node.describeWithin frames = none then
        .error .outOfFrames
      else .ok 1 := by
  rw [reportRuntimeError]
  cases settings.debug with
  | false => rfl
  | true => cases error.node.describeWithin frames <;> rfl

theorem reportUnsaved_cases (path : HostText) (fault : FileFault) (output : String)
    (files : FileSystem) :
    let unnamed := pathLine "Error: cannot write '" path ("': " ++ FileError.message ⟨fault, path⟩)
    (∃ line, unnamed = .ok line ∧
        reportUnsaved path fault output files = .exit 1 (output ++ line) files) ∨
      ∃ error, unnamed = .error error ∧
        reportUnsaved path fault output files = .escape (.unencodable error) output files := by
  intro unnamed
  rw [reportUnsaved]
  cases named : unnamed with
  | ok line => exact .inl ⟨line, rfl, by simp only [unnamed] at named; rw [named]⟩
  | error error => exact .inr ⟨error, rfl, by simp only [unnamed] at named; rw [named]⟩

/-- A file has been changed although the execution did not end with zero: the file was opened, and
then no image could be made, or there was no room for all of it, or the drawing was saved in full
and what follows could not be shown. -/
inductive Leaves (settings : Settings) (program : Node) (files : FileSystem)
    (execution : Execution) : Prop
  | emptied {run : Run} {final : State} {path : HostText} {lines : List String} {bytes : Bytes}
      {error : CanvasError} (drawn : Drawn settings program run final path lines)
      (encoded : path.pathBytes = .ok bytes) (failed : settings.image lines = .error error)
      (saves : files.Saves execution.files bytes [])
      (ending : execution.ending = .error (.canvas error))
  | cut {run : Run} {final : State} {path : HostText} {lines : List String} {bytes : Bytes}
      {document : String} {room : Nat} (drawn : Drawn settings program run final path lines)
      (encoded : path.pathBytes = .ok bytes) (made : settings.image lines = .ok document)
      (left : files.room = some room) (short : room < (Text.Utf8.encode document).length)
      (saves : files.Saves execution.files bytes ((Text.Utf8.encode document).take room))
      (ending : execution.ending = .ok 1 ∨
        ∃ error, path.encodeAt "Error: cannot write '".length = .error error ∧
          execution.ending = .error (.unencodable error))
  | uncounted {run : Run} {final : State} {path : HostText} {lines : List String}
      {error : EncodeError}
      (stores : Stores settings program files execution.files run final path lines)
      (unnamed : path.encodeAt (countText run).length = .error error)
      (ending : execution.ending = .error (.unencodable error))
  | unshown {run : Run} {final : State} {path : HostText} {lines : List String}
      {error : ArithmeticError}
      (stores : Stores settings program files execution.files run final path lines)
      (debug : settings.debug = true) (missing : finalText final = .error error)
      (ending : execution.ending = .error (.arithmetic error))

theorem pathLine_error_iff {before after : String} {path : HostText} {error : EncodeError} :
    pathLine before path after = .error error ↔ path.encodeAt before.length = .error error := by
  rw [pathLine]
  cases path.encodeAt before.length with
  | error cause => exact Iff.rfl
  | ok text => exact iff_of_false nofun nofun

section

variable {settings : Settings} {program : Node} {run : Run} {final : State} {path : HostText}
  {lines : List String} {files : FileSystem} {output : String}

/-- The page of a drawing has as many lines as there are segments. -/
theorem Drawn.size_drawing (drawn : Drawn settings program run final path lines) :
    (settings.drawing lines).surface.size = run.canvas.segments.length :=
  length_of_mapM drawn.texts

/-- A drawing is stored when its image is put where its path was opened. -/
theorem Drawn.stores (drawn : Drawn settings program run final path lines) {bytes : Bytes}
    {place : List Bytes} {document : String} (encoded : path.pathBytes = .ok bytes)
    (opened : files.openNew bytes = .ok place) (made : settings.image lines = .ok document) :
    Stores settings program files (files.store place (Text.Utf8.encode document)) run final path
      lines :=
  ⟨drawn, bytes, document, encoded, made, FileSystem.saves_of_openNew opened _⟩

theorem saveDrawing_of_saved (drawn : Drawn settings program run final path lines)
    {after : FileSystem} (saving : Saving (settings.drawing lines) path files (.ok (), after)) :
    saveDrawing settings path final (settings.drawing lines) output files =
      match pathLine (countText run) path "" with
      | .error error => .escape (.unencodable error) output after
      | .ok line =>
          match settings.closing final with
          | .ok report => .exit 0 (output ++ line ++ report) after
          | .error error => .escape (.arithmetic error) (output ++ line) after := by
  rw [saveDrawing, saving_iff.mp saving]
  dsimp only
  rw [reportSaved_eq, drawn.size_drawing]
  rfl

/-- An error of the saving escapes unless the file system has a fault to report. -/
theorem saveDrawing_of_escaping {canvas : Canvas} {error : SaveError} {after : FileSystem}
    (saving : Saving canvas path files (.error error, after))
    (unreported : ∀ fault, error = .file fault → fault = .nullByte) :
    saveDrawing settings path final canvas output files =
      .escape (error.escape path) output after := by
  rw [saveDrawing, saving_iff.mp saving]
  cases error with
  | unencodable cause | canvas cause => rfl
  | file fault =>
      rw [unreported fault rfl]
      rfl

theorem saveDrawing_of_reported {canvas : Canvas} {fault : FileFault} {after : FileSystem}
    (saving : Saving canvas path files (.error (.file fault), after))
    (reported : fault ≠ .nullByte) :
    saveDrawing settings path final canvas output files =
      reportUnsaved path fault output after := by
  rw [saveDrawing, saving_iff.mp saving]
  cases fault with
  | nullByte => exact absurd rfl reported
  | _ => rfl

/-- A drawing is saved and shown to be saved, or the execution does not end with zero and the files
are as they were, apart from what is listed above. -/
theorem Drawn.saveDrawing_cases (drawn : Drawn settings program run final path lines)
    (output : String) (files : FileSystem) :
    let execution := saveDrawing settings path final (settings.drawing lines) output files
    (∃ line report, pathLine (countText run) path "" = .ok line ∧
        settings.closing final = .ok report ∧
        Stores settings program files execution.files run final path lines ∧
        execution.ending = .ok 0 ∧ execution.output = output ++ line ++ report) ∨
      execution.ending ≠ .ok 0 ∧
        (execution.files = files ∨ Leaves settings program files execution) := by
  have saving : Saving (settings.drawing lines) path files
      (saveImage (settings.drawing lines) path files) := saving_iff.mpr rfl
  generalize saveImage (settings.drawing lines) path files = outcome at saving
  cases id saving with
  | unencodable _ =>
      rw [saveDrawing_of_escaping saving nofun]
      exact .inr ⟨nofun, .inl rfl⟩
  | @unopened _ fault _ _ =>
      by_cases null : fault = .nullByte
      · rw [saveDrawing_of_escaping saving fun other same => by rw [← null]; cases same; rfl]
        exact .inr ⟨nofun, .inl rfl⟩
      · rw [saveDrawing_of_reported saving null]
        rcases reportUnsaved_cases path fault output files with
          ⟨line, -, same⟩ | ⟨error, -, same⟩
        · rw [same]
          exact .inr ⟨nofun, .inl rfl⟩
        · rw [same]
          exact .inr ⟨nofun, .inl rfl⟩
  | emptied encoded opened failed =>
      rw [saveDrawing_of_escaping saving nofun]
      refine .inr ⟨nofun, .inr ?_⟩
      exact .emptied drawn encoded failed (FileSystem.saves_of_openNew opened _) rfl
  | @cut _ place image room encoded opened made left short =>
      have saves := FileSystem.saves_of_openNew opened ((Text.Utf8.encode image).take room)
      rw [saveDrawing_of_reported saving nofun]
      rcases reportUnsaved_cases path .noSpace output _ with
        ⟨line, -, same⟩ | ⟨error, unnamed, same⟩
      · rw [same]
        exact .inr ⟨nofun, .inr (.cut drawn encoded made left short saves (.inl rfl))⟩
      · rw [same]
        refine .inr ⟨nofun, .inr (.cut drawn encoded made left short saves (.inr ?_))⟩
        exact ⟨error, pathLine_error_iff.mp unnamed, rfl⟩
  | saved encoded opened made _ =>
      have stores := drawn.stores encoded opened made
      rw [saveDrawing_of_saved drawn saving]
      cases named : pathLine (countText run) path "" with
      | error error =>
          refine .inr ⟨nofun, .inr ?_⟩
          exact .uncounted stores (pathLine_error_iff.mp named) rfl
      | ok line =>
          cases shown : settings.closing final with
          | ok report => exact .inl ⟨line, report, rfl, rfl, stores, rfl, rfl⟩
          | error error =>
              obtain ⟨debug, missing⟩ := Settings.closing_error shown
              exact .inr ⟨nofun, .inr (.unshown stores debug missing rfl)⟩

/-- A drawing with an image that fits is saved where its path can be opened, whatever happens
afterwards. -/
theorem Drawn.saves (drawn : Drawn settings program run final path lines) {bytes : Bytes}
    {place : List Bytes} {document : String} (encoded : path.pathBytes = .ok bytes)
    (opened : files.openNew bytes = .ok place) (made : settings.image lines = .ok document)
    (fits : files.Fits (Text.Utf8.encode document).length) :
    Stores settings program files
      (saveDrawing settings path final (settings.drawing lines) output files).files run final path
      lines := by
  have stores := drawn.stores encoded opened made
  rw [saveDrawing_of_saved drawn (.saved encoded opened made fits)]
  cases pathLine (countText run) path "" with
  | error error => exact stores
  | ok line => cases settings.closing final <;> exact stores

end

/-- What the execution of a source text does to the files. When it ends with zero and the program is
not only shown, direct evaluation of the program ends in a state, the path holds the image of
exactly its segments in their order, no other file has changed, and the count of the segments is
shown. With any other ending, and when the program is only shown, no file has changed, with these
exceptions: the file under the path is empty when its image cannot be made, it is cut off when there
is no room for all of the image, and it holds the whole image when only the path cannot be shown or
the final state, which a trace shows, has no text. A drawing with an image that fits is always saved
where its path can be opened. -/
theorem runSource_saves_drawing (settings : Settings) (frames : Nat) (text : List Char)
    (name : String) (files : FileSystem) :
    let execution := runSource settings frames text name files
    (settings.parse = false → execution.ending = .ok 0 →
      ∃ program run final path lines line report,
        Program.readChars (levelsWithin frames) text name = .ok program ∧
        Stores settings program files execution.files run final path lines ∧
        pathLine (countText run) path "" = .ok line ∧ settings.closing final = .ok report ∧
        execution.output = settings.traced (Program.readTrace program name) ++ run.trace ++ line ++
          report) ∧
    (settings.parse = true ∨ execution.ending ≠ .ok 0 →
      execution.files = files ∨ settings.parse = false ∧
        ∃ program, Program.readChars (levelsWithin frames) text name = .ok program ∧
          Leaves settings program files execution) ∧
    ∀ program run final path lines bytes place document, settings.parse = false →
      Program.readChars (levelsWithin frames) text name = .ok program →
      Drawn settings program run final path lines → path.pathBytes = .ok bytes →
      files.openNew bytes = .ok place → settings.image lines = .ok document →
      files.Fits (Text.Utf8.encode document).length →
      Stores settings program files execution.files run final path lines := by
  intro execution
  have executes : Executes settings frames text name files execution := executes_iff.mpr rfl
  rw [← and_assoc]
  constructor
  · generalize execution = outcome at executes
    cases executes with
    | rejected unread => exact ⟨nofun, fun _ => .inl rfl⟩
    | tooLong unread => exact ⟨nofun, fun _ => .inl rfl⟩
    | shown found parse =>
        constructor
        · intro drawn
          rw [parse] at drawn
          cases drawn
        · intro _
          exact .inl (showProgram_files _ frames name _ files)
    | @drawn program _ found parse concludes =>
        cases concludes with
        | unprepared failed | overflows evaluated failed | pathless evaluated ended blank =>
            exact ⟨nofun, fun _ => .inl rfl⟩
        | fails evaluated limited failed reported =>
            rw [reportRuntimeError_ending, reportRuntimeError_files]
            refine ⟨fun _ zero => ?_, fun _ => .inl rfl⟩
            split at zero <;> cases zero
        | @drawn run final path lines drawn =>
            rcases drawn.saveDrawing_cases
                (settings.traced (Program.readTrace program name) ++ run.trace) files with
              ⟨line, report, named, shown, stores, zero, output⟩ | ⟨failed, others⟩
            · refine ⟨fun _ _ => ?_, ?_⟩
              · exact ⟨program, run, final, path, lines, line, report, found, stores, named, shown,
                  output⟩
              · rintro (shows | failed)
                · rw [parse] at shows
                  cases shows
                · exact absurd zero failed
            · refine ⟨fun _ zero => absurd zero failed, fun _ => ?_⟩
              rcases others with same | leaves
              · exact .inl same
              · exact .inr ⟨parse, program, found, leaves⟩
  · intro program run final path lines bytes place document parse found drawn encoded opened made
      fits
    have drew : execution = saveDrawing settings path final (settings.drawing lines)
        (settings.traced (Program.readTrace program name) ++ run.trace) files :=
      executes_iff.mp (.drawn found parse (.drawn drawn))
    rw [drew]
    exact drawn.saves encoded opened made fits

/-- This is the greatest number that a literal can give. Its double has one digit more. -/
def longestLiteral : Nat :=
  10 ^ maxDigits - 1

def turnTwice : Node :=
  .seq (.rotate (.const (.whole longestLiteral))) (.rotate (.const (.whole longestLiteral)))

def turnTwiceText : String :=
  "rt " ++ toString longestLiteral ++ " " ++ ("rt " ++ toString longestLiteral)

theorem read_turnTwice (levels : Nat) (filename : String) :
    Program.readChars (levels + 1) turnTwiceText.toList filename = .ok turnTwice := by
  have short : (Nat.toDigits 10 longestLiteral).length ≤ maxDigits := by
    rw [Nat.length_toDigits_le_iff (by decide) (by decide), longestLiteral]
    exact Nat.sub_lt (Nat.pow_pos (by decide)) (by decide)
  have turn : Token.Spells ("rt " ++ toString longestLiteral) _ :=
    (Node.spells_toString short).keyword "rt" (by decide) rfl
  let operand : Expression := .single (.single (.literal (Nat.toDigits 10 longestLiteral)))
  let statements : Statements :=
    .next (.command .rotate operand) (.last (.command .rotate operand))
  have node : statements.node = turnTwice := by
    simp only [statements, operand, Statements.node, Statement.node, expressionNode, termNode,
      Chain.node_single, Atom.node, Node.digitsValue_toDigits, Rule.literal, Command.build]
    rfl
  have nesting : statements.nesting ≤ levels + 1 := Nat.le_add_left 1 levels
  rw [← node]
  exact Program.read_of_derivation (turn.blank turn) nesting filename

/-- The double of the greatest literal has no text. -/
theorem checkedText_double :
    (Number.whole (0 + longestLiteral + longestLiteral)).checkedText = .error .tooManyDigits := by
  have many : 1 < 10 ^ maxDigits := Nat.one_lt_pow (by decide) (by decide)
  have large : 10 ^ maxDigits ≤ (0 + (longestLiteral : Int) + longestLiteral).natAbs := by
    unfold longestLiteral
    omega
  have long : maxDigits <
      (Nat.toDigits 10 (0 + (longestLiteral : Int) + longestLiteral).natAbs).length := by
    rw [← Nat.not_le, Nat.length_toDigits_le_iff (by decide) (by decide), Nat.not_lt]
    exact large
  rw [Number.checkedText, if_pos long]

theorem direct_turnTwice :
    ∃ run final, Settings.direct { debug := true } turnTwice = .ok run ∧
      run.result = .ok final ∧ run.canvas.segments = [] ∧
      finalText final = .error .tooManyDigits := by
  obtain ⟨run, x, y, evaluated, ended, still⟩ : ∃ run x y,
      Settings.direct { debug := true } turnTwice = .ok run ∧ run.result =
        .ok (.initial ⟨.real x, .real y⟩ (.whole (0 + longestLiteral + longestLiteral))) ∧
      run.canvas.segments = [] :=
    ⟨_, _, _, rfl, rfl, rfl⟩
  obtain ⟨textX, shownX⟩ := @Number.exists_twoPlaces (.real x) _ rfl rfl
  obtain ⟨textY, shownY⟩ := @Number.exists_twoPlaces (.real y) _ rfl rfl
  refine ⟨run, _, evaluated, ended, still, ?_⟩
  simp only [finalText, State.initial, shownX, shownY, checkedText_double]
  rfl

/-- The bytes of the path under which drawings are saved unless a flag says otherwise. -/
def outputBytes : Bytes :=
  Text.Utf8.encode "out.svg"

theorem pathBytes_output : (HostText.ofString "out.svg").pathBytes = .ok outputBytes :=
  eq_ok_of_toOption (by decide +kernel)

/-- In an empty file system the output has its own place in the root. -/
theorem openNew_output : FileSystem.openNew ⟨[], [], none⟩ outputBytes = .ok [outputBytes] := by
  have checked : FileSystem.checkPath outputBytes = .ok () := eq_ok_of_toOption (by decide +kernel)
  have relative : (outputBytes.head? == some FileSystem.slash) = false := by decide +kernel
  have single : FileSystem.names outputBytes = [outputBytes] := by decide +kernel
  have short : outputBytes.length ≤ 255 := by decide +kernel
  have named : FileSystem.descend [] outputBytes = [outputBytes] := by decide +kernel
  have resolved := FileSystem.resolve_of_single ⟨[], [], none⟩ checked relative single short
  rw [named] at resolved
  exact FileSystem.openNew_ok_iff.mpr ⟨resolved, by decide +kernel, nofun⟩

/-- The drawing of this text is saved, and then the text of the final heading is missing. -/
theorem turnTwice_saved_before_escape :
    let execution :=
      runSource { debug := true } baseFrames turnTwiceText.toList "<eval>" ⟨[], [], none⟩
    execution.ending = .error (.arithmetic .tooManyDigits) ∧
      FileSystem.readBytes ⟨[], [], none⟩ outputBytes = .error .notFound ∧
      ∃ bytes, execution.files.readBytes outputBytes = .ok bytes := by
  intro execution
  obtain ⟨run, final, evaluated, ended, still, missing⟩ := direct_turnTwice
  have drawn : Drawn { debug := true } turnTwice run final (.ofString "out.svg") [] :=
    ⟨evaluated, ended, rfl, by rw [still]; rfl⟩
  obtain ⟨document, made⟩ : ∃ document, Settings.image { debug := true } [] = .ok document :=
    Settings.exists_image_iff.mpr
      ⟨⟨_, rfl⟩, ⟨_, rfl⟩, ⟨_, rfl⟩, HostText.isHalf_of_mem_ofString⟩
  obtain ⟨shown, encoded⟩ := (@HostText.exists_encodeAt_iff (.ofString "out.svg")
    (countText run).length).mpr HostText.isHalf_of_mem_ofString
  have named : pathLine (countText run) (.ofString "out.svg") "" =
      .ok (countText run ++ shown ++ "" ++ "\n") := by
    rw [pathLine, encoded]
    rfl
  have closing : Settings.closing { debug := true } final = .error .tooManyDigits := missing
  have drew : execution = saveDrawing { debug := true } (.ofString "out.svg") final _ _ _ :=
    executes_iff.mp (.drawn (read_turnTwice 141 "<eval>") rfl (.drawn drawn))
  rw [saveDrawing_of_saved drawn (.saved pathBytes_output openNew_output made nofun), named]
    at drew
  simp only [closing] at drew
  rw [drew]
  refine ⟨rfl, ?_, _, (FileSystem.saves_of_openNew openNew_output _).readBytes⟩
  rw [FileSystem.readBytes, (FileSystem.openNew_ok_iff.mp openNew_output).1]
  rfl

end CommandLine

end Turtle
