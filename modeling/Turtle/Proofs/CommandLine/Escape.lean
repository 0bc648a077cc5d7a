import Turtle.Proofs.CommandLine.Saving
import Turtle.Proofs.Grammar.Abort
import Turtle.Proofs.Grammar.Listing
import Turtle.Proofs.Outline.Budget

/-
This file lists the errors that escape from the execution of a source text. Every other execution
ends with zero or one.
-/

namespace Turtle

/-- A program that is read has no text only where no double holds one of its literals or where the
frames are too few for it. -/
theorem Program.cause_of_source {levels frames : Nat} {text : List Char} {filename : String}
    {program : Node} {error : SourceError}
    (found : Program.readChars levels text filename = .ok program)
    (failed : program.source frames = .error error) :
    (∃ number : Nat, Node.const (.whole number) ∈ program.occurrences ∧ ¬Binary.Exact number) ∨
      frames < program.sourceFrames := by
  have read : Program.read levels (String.ofList text) filename = .ok program := by
    rw [Program.read, String.toList_ofList]
    exact found
  obtain ⟨statements, -, -, rfl⟩ := Program.spells_of_read read
  by_contra none
  obtain ⟨noInexact, enough⟩ := not_or.mp none
  have held : statements.node.Exact := by
    intro number member
    by_contra inexact
    exact noInexact ⟨number, member, inexact⟩
  obtain ⟨source, written⟩ := (statements.needs frames).mpr ⟨held, Nat.not_lt.mp enough⟩
  rw [failed] at written
  cases written

namespace CommandLine

/-- An error escapes from the showing of a program for one of these causes. -/
inductive ShowEscapes (program : Node) (frames : Nat) : Escape → Prop
  | unlisted (short : frames < program.height) : ShowEscapes program frames .outOfFrames
  | unoutlined (short : frames < program.outlineFrames) : ShowEscapes program frames .outOfFrames
  | unwritten {error : SourceError} (listed : program.height ≤ frames)
      (outlined : program.outlineFrames ≤ frames)
      (cause : (∃ number : Nat,
          Node.const (.whole number) ∈ program.occurrences ∧ ¬Binary.Exact number) ∨
        frames < program.sourceFrames)
      (failed : program.source frames = .error error) :
      ShowEscapes program frames (.source error)

/-- An error escapes from the saving of a drawing, or from what is shown behind it, for one of these
causes. -/
inductive SaveEscapes (settings : Settings) (run : Run) (final : State) (path : HostText)
    (lines : List String) (files : FileSystem) : Escape → Prop
  | unencodable {error : EncodeError} (unencoded : path.pathBytes = .error error) :
      SaveEscapes settings run final path lines files (.unencodable error)
  | nullByte {bytes : Bytes} (encoded : path.pathBytes = .ok bytes) (null : 0 ∈ bytes) :
      SaveEscapes settings run final path lines files (.file ⟨.nullByte, path⟩)
  | unimaged {bytes : Bytes} {place : List Bytes} {error : CanvasError}
      (encoded : path.pathBytes = .ok bytes) (opened : files.openNew bytes = .ok place)
      (failed : settings.image lines = .error error) :
      SaveEscapes settings run final path lines files (.canvas error)
  | unnamed {fault : FileFault} {after : FileSystem} {error : EncodeError}
      (saving : Saving (settings.drawing lines) path files (.error (.file fault), after))
      (reported : fault ≠ .nullByte)
      (unnamed : path.encodeAt "Error: cannot write '".length = .error error) :
      SaveEscapes settings run final path lines files (.unencodable error)
  | uncounted {after : FileSystem} {error : EncodeError}
      (saving : Saving (settings.drawing lines) path files (.ok (), after))
      (unnamed : path.encodeAt (countText run).length = .error error) :
      SaveEscapes settings run final path lines files (.unencodable error)
  | unshown {after : FileSystem} {line : String} {error : ArithmeticError}
      (saving : Saving (settings.drawing lines) path files (.ok (), after))
      (named : pathLine (countText run) path "" = .ok line) (debug : settings.debug = true)
      (missing : finalText final = .error error) :
      SaveEscapes settings run final path lines files (.arithmetic error)

/-- An error escapes from the drawing of a program for one of these causes. -/
inductive DrawEscapes (settings : Settings) (program : Node) (files : FileSystem) : Escape → Prop
  | unprepared {error : ArithmeticError} (failed : settings.direct program = .error error) :
      DrawEscapes settings program files (.arithmetic error)
  | overflows {run : Run} {error : ArithmeticError} (evaluated : settings.direct program = .ok run)
      (failed : run.result = .error (.failing (.arithmetic error))) :
      DrawEscapes settings program files (.arithmetic error)
  | undescribed {interpreter : Interpreter} {run : Run} {failure : Failure} {error : RuntimeError}
      (evaluated : settings.direct program = .ok run)
      (limited : settings.interpreter = .ok interpreter)
      (failed : run.result = .error (.failing failure))
      (reported : Interpreter.nestingFailure program failure = .runtime error)
      (debug : settings.debug = true)
      (missing : error.node.describeWithin interpreter.limits.frames = none) :
      DrawEscapes settings program files .outOfFrames
  | pathless {run : Run} {final : State} (evaluated : settings.direct program = .ok run)
      (ended : run.result = .ok final) (blank : settings.output = .blank) :
      DrawEscapes settings program files .blankOutput
  | drawn {run : Run} {final : State} {path : HostText} {lines : List String} {escape : Escape}
      (drawn : Drawn settings program run final path lines)
      (escapes : SaveEscapes settings run final path lines files escape) :
      DrawEscapes settings program files escape

/-- An error escapes from the execution of a source text for one of these causes. -/
inductive Escapes (settings : Settings) (frames : Nat) (text : List Char) (name : String)
    (files : FileSystem) : Escape → Prop
  | tooLong {digits : Nat} (long : LongLiteral text digits)
      (unread : Program.readChars (levelsWithin frames) text name =
        .error (.literalTooLong digits)) :
      Escapes settings frames text name files (.literalTooLong digits)
  | shown {program : Node} {escape : Escape}
      (found : Program.readChars (levelsWithin frames) text name = .ok program)
      (parse : settings.parse = true) (escapes : ShowEscapes program frames escape) :
      Escapes settings frames text name files escape
  | drawn {program : Node} {escape : Escape}
      (found : Program.readChars (levelsWithin frames) text name = .ok program)
      (parse : settings.parse = false) (escapes : DrawEscapes settings program files escape) :
      Escapes settings frames text name files escape

namespace Execution

/-- An execution ends with zero or one, or with an error for which there is a cause. -/
def Concluded (execution : Execution) (causes : Escape → Prop) : Prop :=
  (∃ code, execution.ending = .ok code ∧ (code = 0 ∨ code = 1)) ∨
    ∃ escape, execution.ending = .error escape ∧ causes escape

variable {execution : Execution} {causes wider : Escape → Prop}

theorem Concluded.mono (concluded : execution.Concluded causes)
    (weaker : ∀ escape, causes escape → wider escape) : execution.Concluded wider := by
  rcases concluded with code | ⟨escape, ended, cause⟩
  · exact .inl code
  · exact .inr ⟨escape, ended, weaker escape cause⟩

theorem Concluded.code {code : Nat} (concluded : execution.Concluded causes)
    (ended : execution.ending = .ok code) : code = 0 ∨ code = 1 := by
  rcases concluded with ⟨other, same, bounded⟩ | ⟨escape, same, -⟩
  · rw [ended] at same
    cases same
    exact bounded
  · rw [ended] at same
    cases same

theorem Concluded.cause {escape : Escape} (concluded : execution.Concluded causes)
    (ended : execution.ending = .error escape) : causes escape := by
  rcases concluded with ⟨code, same, -⟩ | ⟨other, same, cause⟩
  · rw [ended] at same
    cases same
  · rw [ended] at same
    cases same
    exact cause

end Execution

section

variable {settings : Settings} {frames : Nat} {text : List Char} {name output : String}
  {files : FileSystem} {program : Node} {run : Run} {final : State} {path : HostText}
  {lines : List String} {escape : Escape}

theorem procedureNames_eq_none_iff : program.procedureNames frames = none ↔
    frames < program.height := by
  rw [Node.procedureNames_eq]
  split
  · next enough => exact iff_of_false nofun (Nat.not_lt.mpr enough)
  · next short => exact iff_of_true rfl (Nat.not_le.mp short)

theorem ShowEscapes.ending (escapes : ShowEscapes program frames escape) :
    (showProgram program frames name output files).ending = .error escape := by
  rw [showProgram]
  cases escapes with
  | unlisted short =>
      rw [procedureNames_eq_none_iff.mpr short]
      rfl
  | unoutlined short =>
      rw [Node.outline_eq_none_iff.mpr short]
      cases program.procedureNames frames <;> rfl
  | unwritten listed outlined _ failed =>
      rw [Node.procedureNames_eq, if_pos listed,
        Node.outline_eq_some_iff.mpr ⟨outlined, rfl⟩, failed]
      rfl

/-- A program that is read is shown, or an error escapes for a cause of the list. -/
theorem showProgram_concluded {levels : Nat} (name output : String) (files : FileSystem)
    (found : Program.readChars levels text name = .ok program) :
    (showProgram program frames name output files).Concluded (ShowEscapes program frames) := by
  by_cases listed : program.height ≤ frames
  · by_cases outlined : program.outlineFrames ≤ frames
    · cases written : program.source frames with
      | error error =>
          have escapes : ShowEscapes program frames (.source error) :=
            .unwritten listed outlined (Program.cause_of_source found written) written
          exact .inr ⟨_, escapes.ending, escapes⟩
      | ok source =>
          refine .inl ⟨0, ?_, .inl rfl⟩
          rw [showProgram, Node.procedureNames_eq, if_pos listed,
            Node.outline_eq_some_iff.mpr ⟨outlined, rfl⟩, written]
          rfl
    · have escapes := ShowEscapes.unoutlined (Nat.not_le.mp outlined)
      exact .inr ⟨_, escapes.ending, escapes⟩
  · have escapes := ShowEscapes.unlisted (Nat.not_le.mp listed)
    exact .inr ⟨_, escapes.ending, escapes⟩

theorem SaveEscapes.ending (drawn : Drawn settings program run final path lines)
    (escapes : SaveEscapes settings run final path lines files escape) :
    (saveDrawing settings path final (settings.drawing lines) output files).ending =
      .error escape := by
  cases escapes with
  | unencodable unencoded =>
      rw [saveDrawing_of_escaping (.unencodable unencoded) nofun]
      rfl
  | nullByte encoded null =>
      have refused : files.openNew _ = .error .nullByte :=
        FileSystem.openNew_nullByte_iff.mpr null
      rw [saveDrawing_of_escaping (.unopened encoded refused) (by rintro fault ⟨⟩; rfl)]
      rfl
  | unimaged encoded opened failed =>
      have saving : Saving (settings.drawing lines) path files _ := .emptied encoded opened failed
      rw [saveDrawing_of_escaping saving nofun]
      rfl
  | unnamed saving reported unnamed =>
      rw [saveDrawing_of_reported saving reported, reportUnsaved, pathLine_error_iff.mpr unnamed]
      rfl
  | uncounted saving unnamed =>
      rw [saveDrawing_of_saved drawn saving, pathLine_error_iff.mpr unnamed]
      rfl
  | unshown saving named debug missing =>
      rw [saveDrawing_of_saved drawn saving, named]
      simp only [Settings.closing, debug, if_true, missing]
      rfl

/-- A fault of the file system is reported unless the path cannot be shown. -/
theorem Drawn.concluded_of_reported (drawn : Drawn settings program run final path lines)
    (output : String) {fault : FileFault} {after : FileSystem}
    (saving : Saving (settings.drawing lines) path files (.error (.file fault), after))
    (reported : fault ≠ .nullByte) :
    (saveDrawing settings path final (settings.drawing lines) output files).Concluded
      (SaveEscapes settings run final path lines files) := by
  rcases reportUnsaved_cases path fault output after with ⟨line, -, same⟩ | ⟨error, unnamed, -⟩
  · refine .inl ⟨1, ?_, .inr rfl⟩
    rw [saveDrawing_of_reported saving reported, same]
    rfl
  · have escapes : SaveEscapes settings run final path lines files _ :=
      .unnamed saving reported (pathLine_error_iff.mp unnamed)
    exact .inr ⟨_, escapes.ending drawn, escapes⟩

/-- A drawing is saved, or its path is reported, or an error escapes for a cause of the list. -/
theorem Drawn.concluded (drawn : Drawn settings program run final path lines) (output : String)
    (files : FileSystem) :
    (saveDrawing settings path final (settings.drawing lines) output files).Concluded
      (SaveEscapes settings run final path lines files) := by
  have saving : Saving (settings.drawing lines) path files
      (saveImage (settings.drawing lines) path files) := saving_iff.mpr rfl
  generalize saveImage (settings.drawing lines) path files = outcome at saving
  cases id saving with
  | unencodable unencoded =>
      have escapes := @SaveEscapes.unencodable settings run final path lines files _ unencoded
      exact .inr ⟨_, escapes.ending drawn, escapes⟩
  | @unopened bytes fault encoded refused =>
      by_cases null : fault = .nullByte
      · subst null
        have escapes : SaveEscapes settings run final path lines files _ :=
          .nullByte encoded (FileSystem.openNew_nullByte_iff.mp refused)
        exact .inr ⟨_, escapes.ending drawn, escapes⟩
      · exact drawn.concluded_of_reported output saving null
  | emptied encoded opened failed =>
      have escapes : SaveEscapes settings run final path lines files _ :=
        .unimaged encoded opened failed
      exact .inr ⟨_, escapes.ending drawn, escapes⟩
  | cut => exact drawn.concluded_of_reported output saving nofun
  | saved =>
      cases named : pathLine (countText run) path "" with
      | error error =>
          have escapes : SaveEscapes settings run final path lines files _ :=
            .uncounted saving (pathLine_error_iff.mp named)
          exact .inr ⟨_, escapes.ending drawn, escapes⟩
      | ok line =>
          cases shown : settings.closing final with
          | error error =>
              obtain ⟨debug, missing⟩ := Settings.closing_error shown
              have escapes : SaveEscapes settings run final path lines files _ :=
                .unshown saving named debug missing
              exact .inr ⟨_, escapes.ending drawn, escapes⟩
          | ok report =>
              refine .inl ⟨0, ?_, .inl rfl⟩
              simp only [saveDrawing_of_saved drawn saving, named, shown]
              rfl

theorem DrawEscapes.ending (escapes : DrawEscapes settings program files escape) :
    (drawProgram settings program name output files).ending = .error escape := by
  cases escapes with
  | unprepared failed =>
      rw [Concludes.drawProgram_eq (.unprepared failed)]
      rfl
  | overflows evaluated failed =>
      rw [Concludes.drawProgram_eq (.overflows evaluated failed)]
      rfl
  | undescribed evaluated limited failed reported debug missing =>
      rw [Concludes.drawProgram_eq (.fails evaluated limited failed reported),
        reportRuntimeError_ending, if_pos ⟨debug, missing⟩]
  | pathless evaluated ended blank =>
      rw [Concludes.drawProgram_eq (.pathless evaluated ended blank)]
      rfl
  | drawn drawn escapes =>
      rw [Concludes.drawProgram_eq (.drawn drawn)]
      exact escapes.ending drawn

theorem Concludes.concluded {execution : Execution}
    (concludes : Concludes settings program name output files execution) :
    execution.Concluded (DrawEscapes settings program files) := by
  cases concludes with
  | unprepared failed => exact .inr ⟨_, rfl, .unprepared failed⟩
  | fails evaluated limited failed reported =>
      rw [Execution.Concluded, reportRuntimeError_ending]
      split
      · next unshown =>
          obtain ⟨debug, missing⟩ := unshown
          exact .inr ⟨_, rfl, .undescribed evaluated limited failed reported debug missing⟩
      · exact .inl ⟨1, rfl, .inr rfl⟩
  | overflows evaluated failed => exact .inr ⟨_, rfl, .overflows evaluated failed⟩
  | pathless evaluated ended blank => exact .inr ⟨_, rfl, .pathless evaluated ended blank⟩
  | drawn drawn => exact (drawn.concluded _ files).mono fun _ escapes => .drawn drawn escapes

/-- Each cause of the list lets its error escape. -/
theorem Escapes.ending (escapes : Escapes settings frames text name files escape) :
    (runSource settings frames text name files).ending = .error escape := by
  cases escapes with
  | tooLong _ unread =>
      rw [executes_iff.mp (.tooLong unread)]
      rfl
  | shown found parse escapes =>
      rw [executes_iff.mp (.shown found parse)]
      exact escapes.ending
  | drawn found parse escapes =>
      rw [executes_iff.mp (.drawn found parse (drawProgram_concludes ..))]
      exact escapes.ending

/-- An execution ends with zero or one, or an error escapes for a cause of the list. -/
theorem Executes.concluded {execution : Execution}
    (executes : Executes settings frames text name files execution) :
    execution.Concluded (Escapes settings frames text name files) := by
  cases executes with
  | rejected unread => exact .inl ⟨1, rfl, .inr rfl⟩
  | tooLong unread =>
      exact .inr ⟨_, rfl, .tooLong (Program.longLiteral_of_read unread) unread⟩
  | shown found parse =>
      exact (showProgram_concluded name _ files found).mono fun _ => .shown found parse
  | drawn found parse concludes =>
      exact concludes.concluded.mono fun _ => .drawn found parse

end

end CommandLine

end Turtle
