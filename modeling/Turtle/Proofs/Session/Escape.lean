import Turtle.Proofs.CommandLine.Escape
import Turtle.Proofs.Session.Prompt

/-
This file lists the errors that escape from a session. Every other failure of a line is reported,
and the session goes on.
-/

namespace Turtle.CommandLine

/-- The count of the segments is shown in front of the path once the drawing has been saved. -/
def savedText (session : Session) : String :=
  s!"Saved {session.canvas.surface.size} segments to "

/-- A line of a session lets an error escape for one of these causes. -/
inductive LineEscapes (settings : Settings) (session : Session) (line : List Char) :
    Escape → Prop
  | tooLong {digits : Nat} (isProgram : IsProgram line)
      (long : LongLiteral (Text.strip line) digits)
      (unread : Program.readChars (levelsWithin session.frames) (Text.strip line) "<repl>" =
        .error (.literalTooLong digits)) :
      LineEscapes settings session line (.literalTooLong digits)
  | unlimited {program : Node} {error : ArithmeticError} (isProgram : IsProgram line)
      (found : Program.readChars (levelsWithin session.frames) (Text.strip line) "<repl>" =
        .ok program)
      (failed : settings.interpreter = .error error) :
      LineEscapes settings session line (.arithmetic error)
  | overflows {program : Node} {interpreter : Interpreter} {error : ArithmeticError}
      (isProgram : IsProgram line)
      (found : Program.readChars (levelsWithin session.frames) (Text.strip line) "<repl>" =
        .ok program)
      (ready : settings.interpreter = .ok interpreter)
      (failed : (interpreter.evaluateDirectly program .blank session.state).result =
        .error (.failing (.arithmetic error))) :
      LineEscapes settings session line (.arithmetic error)
  | unshown {error : ArithmeticError} (state : String.ofList (Text.strip line) = ":state")
      (failed : finalText session.state = .error error) :
      LineEscapes settings session line (.arithmetic error)
  | pathless (save : String.ofList (Text.strip line) = ":save")
      (blank : settings.output = .blank) :
      LineEscapes settings session line .blankOutput
  | unsaved {path : HostText} {error : SaveError} {after : FileSystem}
      (save : String.ofList (Text.strip line) = ":save") (given : settings.output = .value path)
      (saving : Saving session.canvas path session.files (.error error, after)) :
      LineEscapes settings session line (error.escape path)
  | unnamed {path : HostText} {after : FileSystem} {error : EncodeError}
      (save : String.ofList (Text.strip line) = ":save") (given : settings.output = .value path)
      (saving : Saving session.canvas path session.files (.ok (), after))
      (unnamed : path.encodeAt (savedText session).length = .error error) :
      LineEscapes settings session line (.unencodable error)

section

variable {settings : Settings} {session : Session} {line : List Char} {escape : Escape}

end

/-- A session ends with its input, at a line that asks for it, or where an error escapes. Up to
there it comes back to the prompt behind each line. -/
inductive Session.Ends (settings : Settings) (begun : Session) (lines : List (List Char)) :
    Except Escape Nat → Prop
  | inputEnds {shown : String} {last : Session}
      (reached : Session.Reaches settings begun lines shown last) :
      Ends settings begun lines (.ok 0)
  | exits {before rest : List (List Char)} {line : List Char} {shown : String} {last : Session}
      (taken : lines = before ++ line :: rest)
      (reached : Session.Reaches settings begun before shown last)
      (exit : String.ofList (Text.strip line) = "exit") :
      Ends settings begun lines (.ok 0)
  | escapes {before rest : List (List Char)} {line : List Char} {shown : String} {last : Session}
      {escape : Escape} (taken : lines = before ++ line :: rest)
      (reached : Session.Reaches settings begun before shown last)
      (escapes : LineEscapes settings last line escape) :
      Ends settings begun lines (.error escape)

theorem Session.Ends.cons {settings : Settings} {session next : Session} {line : List Char}
    {lines : List (List Char)} {output : String} {ending : Except Escape Nat}
    (taken : takeLine settings session line = .prompt next output)
    (ends : Session.Ends settings next lines ending) :
    Session.Ends settings session (line :: lines) ending := by
  cases ends with
  | inputEnds reached => exact .inputEnds (.next taken reached)
  | exits same reached exit => exact .exits (congrArg (line :: ·) same) (.next taken reached) exit
  | escapes same reached escapes =>
      exact .escapes (congrArg (line :: ·) same) (.next taken reached) escapes

end Turtle.CommandLine
