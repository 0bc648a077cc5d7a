import Turtle.Building

namespace Turtle

/-- A combination describes how a parser is put together. A part is kept when its value passes a
test, as being a given word or not being empty. The parser of a deferred part is built when it is
first applied, and its label tells it from the other deferred parts. A deferred part is a term of
its own, so that a rule that refers to itself is no combination. The rules for statements, which do,
are defined by recursion on the levels left. -/
inductive Combination (ε α : Type) where
  | satisfy (test : Char → Bool) (build : Char → α)
  | map (part : Combination ε α) (action : α → Except ε α)
  | many (part : Combination ε α) (collect : List α → α)
  | keep (part : Combination ε α) (test : α → Except ε Bool)
  | sequence (parts : List (Combination ε α)) (collect : List α → α)
  | choice (parts : List (Combination ε α))
  | deferred (label : Nat) (part : Combination ε α)
  | lexeme (part : Combination ε α) (bounded : Bool)
  | binaryLeft (base operator : Combination ε α) (combine : α → α → α → α)
  | binaryRight (base : Combination ε α) (combine : α → α → α)
  | brackets (opening inner closing : Combination ε α)
  | atEnd (part : Combination ε α)

namespace Combination

variable {ε α : Type}

/-- The value stays, is rejected, or is refused by the test. -/
def keepWhen (test : α → Except ε Bool) (value : α) : Except ε (Option α) :=
  (test value).map fun kept => if kept then some value else none

mutual

/-- The plain parser of a combination treats a deferred part as the part itself. -/
def parser : Combination ε α → Parser ε α
  | .satisfy test build => build <$> Parser.satisfy test
  | .map part action => (parser part).convert action
  | .many part collect => collect <$> Parser.many (parser part)
  | .keep part test => ((parser part).convert (keepWhen test)).refine id
  | .sequence parts collect => collect <$> Parser.sequence (parsers parts)
  | .choice parts => Parser.choice (parsers parts)
  | .deferred _ part => parser part
  | .lexeme part bounded => Parser.lexeme (parser part) bounded
  | .binaryLeft base operator combine =>
      Parser.binaryLeft (parser base) (parser operator) combine
  | .binaryRight base combine => Parser.binaryRight (parser base) combine
  | .brackets opening inner closing =>
      Parser.brackets (parser opening) (parser inner) (parser closing)
  | .atEnd part => Parser.atEnd (parser part)

def parsers : List (Combination ε α) → List (Parser ε α)
  | [] => []
  | part :: rest => parser part :: parsers rest

end

mutual

/-- The building parser of a combination remembers which deferred parts were reached. -/
def building : Combination ε α → Building ε α
  | .satisfy test build => build <$> Building.ofParser (Parser.satisfy test)
  | .map part action => (building part).andThen (Reply.convert action)
  | .many part collect => collect <$> Building.many (building part)
  | .keep part test =>
      (building part).andThen fun reply => (reply.convert (keepWhen test)).refine id
  | .sequence parts collect => collect <$> Building.sequence (buildings parts)
  | .choice parts => Building.choice (buildings parts)
  | .deferred label part => Building.deferred label (building part)
  | .lexeme part bounded => do
      let value ← building part
      let blanks ← Building.ofParser Parser.spaces
      if bounded && blanks.isEmpty then
        Building.ofParser (Parser.notBefore Text.isAlphanumeric value)
      else return value
  | .binaryLeft base operator combine => do
      let first ← building base
      let tails ← Building.many do
        let sign ← building operator
        let right ← building base
        return (sign, right)
      return tails.foldl (fun left tail => combine tail.1 left tail.2) first
  | .binaryRight base combine =>
      (Building.many (building base)).andThen (Reply.refine (Parser.foldRight? combine))
  | .brackets opening inner closing => do
      let _ ← building opening
      let value ← building inner
      let _ ← building closing
      return value
  | .atEnd part => (building part).andThen Reply.atEnd

def buildings : List (Combination ε α) → List (Building ε α)
  | [] => []
  | part :: rest => building part :: buildings rest

end

mutual

/-- The deferred parts are numbered from the given label on; the next free label is returned
too. -/
def number (next : Nat) : Combination ε α → Combination ε α × Nat
  | .satisfy test build => (.satisfy test build, next)
  | .map part action =>
      let (part, next) := number next part
      (.map part action, next)
  | .many part collect =>
      let (part, next) := number next part
      (.many part collect, next)
  | .keep part test =>
      let (part, next) := number next part
      (.keep part test, next)
  | .sequence parts collect =>
      let (parts, next) := numberAll next parts
      (.sequence parts collect, next)
  | .choice parts =>
      let (parts, next) := numberAll next parts
      (.choice parts, next)
  | .deferred _ part =>
      let (part, following) := number (next + 1) part
      (.deferred next part, following)
  | .lexeme part bounded =>
      let (part, next) := number next part
      (.lexeme part bounded, next)
  | .binaryLeft base operator combine =>
      let (base, next) := number next base
      let (operator, next) := number next operator
      (.binaryLeft base operator combine, next)
  | .binaryRight base combine =>
      let (base, next) := number next base
      (.binaryRight base combine, next)
  | .brackets opening inner closing =>
      let (opening, next) := number next opening
      let (inner, next) := number next inner
      let (closing, next) := number next closing
      (.brackets opening inner closing, next)
  | .atEnd part =>
      let (part, next) := number next part
      (.atEnd part, next)

def numberAll (next : Nat) : List (Combination ε α) → List (Combination ε α) × Nat
  | [] => ([], next)
  | part :: rest =>
      let (part, next) := number next part
      let (rest, next) := numberAll next rest
      (part :: rest, next)

end

/-- The parser is applied to each text in turn, and keeps what it has built. -/
def applyEach (combination : Combination ε α) (built : List Nat) :
    List Cursor → List (Reply ε α) × List Nat
  | [] => ([], built)
  | input :: rest =>
      let (reply, built) := combination.building built input
      let (replies, built) := applyEach combination built rest
      (reply :: replies, built)

/-- The labels are fresh, so the number of labels built is the number of parsers built. -/
def applyToTexts (combination : Combination ε α) (texts : List String) :
    List (Reply ε α) × Nat :=
  let (replies, built) := applyEach (combination.number 0).1 [] (texts.map Cursor.ofString)
  (replies, built.length)

end Combination

end Turtle
