import Turtle.Text.CharClass

namespace Turtle.Text

/-- Both ends lose the characters that satisfy the test. -/
def stripWhile (test : Char → Bool) (chars : List Char) : List Char :=
  ((chars.dropWhile test).reverse.dropWhile test).reverse

def strip (chars : List Char) : List Char :=
  stripWhile isSpace chars

/-- The parts between separators keep their order, and a list without separators is one part. -/
def splitWhen {α : Type} (separates : α → Bool) (items : List α) : List (List α) :=
  items.foldr (fun item parts =>
    if separates item then [] :: parts
    else match parts with
      | part :: rest => (item :: part) :: rest
      | [] => [[item]]) [[]]

def splitLines (chars : List Char) : List (List Char) :=
  splitWhen (· == '\n') chars

/-- The words of a text are its longest runs of ASCII letters. -/
def letterRuns (chars : List Char) : List String :=
  ((splitWhen (fun char => !isAsciiLetter char) chars).filter fun run => !run.isEmpty).map
    String.ofList

/-- Every line end becomes a single line feed. -/
def normalizeLineEnds : List Char → List Char
  | '\r' :: '\n' :: rest => '\n' :: normalizeLineEnds rest
  | '\r' :: rest => '\n' :: normalizeLineEnds rest
  | char :: rest => char :: normalizeLineEnds rest
  | [] => []

/-- The text is repeated the given number of times, and not at all for a negative count. -/
def repeated (count : Int) (text : String) : String :=
  String.join (List.replicate count.toNat text)

/-- The text is padded on the left with blanks up to the width. -/
def padLeft (width : Nat) (text : String) : String :=
  String.ofList (List.replicate (width - text.length) ' ') ++ text

end Turtle.Text
