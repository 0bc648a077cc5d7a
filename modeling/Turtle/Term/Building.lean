import Turtle.Combination
import Turtle.Term

namespace Turtle.Term

def toText (char : Char) : Value :=
  .text (String.singleton char)

/-- The values of a left fold are lists of the operator and its two operands. -/
def combineLeft (operator left right : Value) : Value :=
  .list [operator, left, right]

def combineRight (left right : Value) : Value :=
  .list [left, right]

mutual

/-- The vocabulary of a term names its functions on values. -/
def combination : Term → Combination TermError Value
  | .satisfy set => .satisfy set.contains toText
  | .map term action => .map (combination term) action.apply
  | .many term => .many (combination term) .list
  | .keep term test => .keep (combination term) test.apply
  | .sequence terms => .sequence (combinations terms) .list
  | .choice terms => .choice (combinations terms)
  | .deferred label term => .deferred label (combination term)
  | .lexeme term bounded => .lexeme (combination term) bounded
  | .binaryLeft base operator => .binaryLeft (combination base) (combination operator) combineLeft
  | .binaryRight base => .binaryRight (combination base) combineRight
  | .brackets opening inner closing =>
      .brackets (combination opening) (combination inner) (combination closing)
  | .atEnd term => .atEnd (combination term)

def combinations : List Term → List (Combination TermError Value)
  | [] => []
  | term :: rest => combination term :: combinations rest

end

/-- The parser of a term is applied to each text in turn. -/
def applyToTexts (term : Term) (texts : List String) : List (Reply TermError Value) × Nat :=
  term.combination.applyToTexts texts

end Turtle.Term
