import Turtle.Proofs.Evaluation.Cursor
import Turtle.Proofs.Evaluation.Tally
import Turtle.Proofs.Procedures
import Turtle.Proofs.Source.RoundTrip

/-
This file follows a procedure that steps forward by its argument and calls itself with one less,
until the argument is zero or the limit of open calls is reached.
-/

namespace Turtle

namespace Walk

variable {heading : Number} {start finish : Point} {lengths : List Number} {drawn : List Segment}

end Walk

/-- The argument steps down to zero, and each activation but the last draws one step. -/
def countdownText (count : Nat) : String :=
  "to f :n if :n = 0 [stop] fd :n f :n-1 end f " ++ toString count

namespace Countdown

def argument : Node :=
  .sub (.var "n") (.const (.whole 1))

def condition : Node :=
  .eq (.var "n") (.const (.whole 0))

def body : Node :=
  .seq (.branch condition .stop) (.seq (.forward (.var "n")) (.call "f" [argument]))

def definition : Definition :=
  ⟨"f", ["n"], body, []⟩

def procedures : Procedures :=
  Procedures.define [] definition

def program (count : Nat) : Node :=
  .seq (.define "f" ["n"] body) (.call "f" [.const (.whole count)])

/-- The body is entered in this state, and only the cursor and the argument change between two
activations. -/
def entry (count : Nat) (position : Point) : State :=
  ⟨position, .whole 0, [("n", .whole count)], procedures, false⟩

/-- The walk goes by these lengths, from the count down to one. -/
def lengths (count : Nat) : List Number :=
  (List.range count).map fun index => .whole ((count - index : Nat) : Int)

section

variable {limits : Limits} {frames depth count calls : Nat} {start finish : Point}
  {result : Except Failure State} {drawn : List Segment}

/-- The numbers up to the count are lengths that a step may have. -/
def Steps (count : Nat) : Prop :=
  ∀ length ≤ count, ∃ double, (Number.whole length).toDouble = .ok double

end

/-- The run of the text from the origin, which is read within the given frames. -/
def run (interpreter : Interpreter) (frames : Nat) (canvas : Canvas) (count : Nat) : Run :=
  interpreter.run (levelsWithin frames) (.text (countdownText count)) canvas .origin

section

variable {interpreter : Interpreter} {frames : Nat} {canvas : Canvas} {count : Nat}

end

end Countdown

end Turtle
