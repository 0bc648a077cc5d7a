import Turtle.Proofs.Token

/-
This file defines the derivation trees of the grammar with the tokens that they derive, the
syntax trees that they stand for and the depth to which their statements nest.
-/

namespace Turtle.Derivation

/-- An atom is a literal or a variable. -/
inductive Atom where
  | literal (digits : List Char)
  | reference (name : String)

namespace Atom

def tokens : Atom → List Token
  | .literal digits => [.literal digits]
  | .reference name => [.reference name]

def node : Atom → Node
  | .literal digits => Rule.literal (Rule.digitsValue digits)
  | .reference name => .var name

end Atom

/-- A chain is one item with further items, each behind the same sign. -/
structure Chain (α : Type) where
  first : α
  others : List α

namespace Chain

variable {α : Type}

def tokens (sign : Char) (itemTokens : α → List Token) (chain : Chain α) : List Token :=
  itemTokens chain.first ++ chain.others.flatMap fun item => .symbol sign :: itemTokens item

/-- A chain folds to the left. -/
def node (build : Node → Node → Node) (itemNode : α → Node) (chain : Chain α) : Node :=
  chain.others.foldl (fun left item => build left (itemNode item)) (itemNode chain.first)

end Chain

/-- A term divides an atom by atoms. -/
abbrev Term : Type :=
  Chain Atom

/-- An expression subtracts terms from a term. -/
abbrev Expression : Type :=
  Chain Term

def termTokens (term : Term) : List Token :=
  term.tokens '/' Atom.tokens

def termNode (term : Term) : Node :=
  term.node .div Atom.node

def expressionTokens (expression : Expression) : List Token :=
  expression.tokens '-' termTokens

def expressionNode (expression : Expression) : Node :=
  expression.node .sub termNode

/-- A procedure has a name that is not reserved. -/
structure ProcedureName where
  word : String
  unreserved : word ∉ reservedWords

inductive Command where
  | forward
  | rotate
  | setHeading

namespace Command

def word : Command → String
  | .forward => "fd"
  | .rotate => "rt"
  | .setHeading => "seth"

def build : Command → Node → Node
  | .forward => .forward
  | .rotate => .rotate
  | .setHeading => .setHeading

end Command

mutual

inductive Statement where
  | command (command : Command) (operand : Expression)
  | loop (times : Expression) (body : Statement)
  | define (name : ProcedureName) (params : List String) (body : Statements)
  | branch (left right : Expression) (body : Statement)
  | stop
  | call (name : ProcedureName) (args : List Expression)
  | block (body : Statements)

/-- One or more statements follow one another. -/
inductive Statements where
  | last (statement : Statement)
  | next (statement : Statement) (rest : Statements)

end

mutual

def Statement.tokens : Statement → List Token
  | .command command operand => .name command.word :: expressionTokens operand
  | .loop times body => .name "repeat" :: (expressionTokens times ++ body.tokens)
  | .define name params body =>
      .name "to" :: .name name.word ::
        (params.map .reference ++ (body.tokens ++ [.name "end"]))
  | .branch left right body =>
      .name "if" :: (expressionTokens left ++
        .symbol '=' :: (expressionTokens right ++ body.tokens))
  | .stop => [.name "stop"]
  | .call name args => .name name.word :: args.flatMap expressionTokens
  | .block body => .symbol '[' :: (body.tokens ++ [.symbol ']'])

def Statements.tokens : Statements → List Token
  | .last statement => statement.tokens
  | .next statement rest => statement.tokens ++ rest.tokens

end

mutual

/-- The brackets of a block leave no trace in the tree. -/
def Statement.node : Statement → Node
  | .command command operand => command.build (expressionNode operand)
  | .loop times body => .loop (expressionNode times) body.node
  | .define name params body => .define name.word params body.node
  | .branch left right body => .branch (.eq (expressionNode left) (expressionNode right)) body.node
  | .stop => .stop
  | .call name args => .call name.word (args.map expressionNode)
  | .block body => body.node

/-- A run of statements folds to the right. -/
def Statements.node : Statements → Node
  | .last statement => statement.node
  | .next statement rest => .seq statement.node rest.node

end

mutual

/-- A statement nests one level deeper than the statements in it. -/
def Statement.nesting : Statement → Nat
  | .command _ _ | .stop | .call _ _ => 1
  | .loop _ body | .branch _ _ body => body.nesting + 1
  | .define _ _ body | .block body => body.nesting + 1

def Statements.nesting : Statements → Nat
  | .last statement => statement.nesting
  | .next statement rest => max statement.nesting rest.nesting

end

end Turtle.Derivation
