import Turtle.Proofs.Diagnostic.Place
import Turtle.Proofs.Outline.Budget
import Turtle.Proofs.Source.Constant

/-
This file writes the rows of flat trees as lines of text. A line is a run of blanks, a run of
letters for the kind of the head and what stands in brackets behind it, so it can be read back.
-/

namespace Turtle

namespace Kind

end Kind

namespace Text

/-- The parameters of a procedure stand in its line, each behind a blank and a colon. -/
def params (names : List String) : List Char :=
  names.flatMap fun name => ' ' :: ':' :: name.toList

end Text

namespace Head

/-- What stands in the brackets of a head. -/
def inner : Head → List Char
  | .const value => value.text.toList
  | .var name | .call name => name.toList
  | .define name params => name.toList ++ Text.params params
  | .plain _ => []

end Head

namespace Text

/-- Blanks are put before a line. -/
def indented (count : Nat) (line : List Char) : List Char :=
  List.replicate count ' ' ++ line

end Text

namespace Head

end Head

namespace Flat

/-- The line of a row has two blanks for each level. -/
def line (indent : Int) (row : Row) : List Char :=
  Text.indented (2 * (indent + row.1)).toNat row.2.text.toList

end Flat

namespace Node

end Node

end Turtle
