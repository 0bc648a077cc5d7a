import Turtle.Proofs.Source.Statement

/-
This file shows that the tree of a derivation is a statement tree that nests no deeper than the
derivation.
-/

namespace Turtle

namespace Token

/-- Names in a token are words. -/
def HasWord : Token → Prop
  | .name word | .reference word => Text.isWord word = true
  | .literal _ | .symbol _ => True

theorem isWord_ofList {letters : List Char} (nonempty : letters ≠ [])
    (passes : ∀ char ∈ letters, Text.isAsciiLetter char = true) :
    Text.isWord (String.ofList letters) = true := by
  simpa [Text.isWord, nonempty] using passes

theorem cut?_hasWord {text behind : List Char} {token : Token}
    (found : cut? text = some (token, behind)) : token.HasWord := by
  cases text with
  | nil => cases found
  | cons char rest =>
      have run : ∀ other ∈ rest.takeWhile Text.isAsciiLetter, Text.isAsciiLetter other = true :=
        fun other member => List.mem_takeWhile_imp member
      simp only [cut?] at found
      split_ifs at found with digit letter touching colon empty isSymbol
      · cases found
        trivial
      · cases found
        exact isWord_ofList (by simp) (List.forall_mem_cons.mpr ⟨letter, run⟩)
      · cases found
        exact isWord_ofList (by simpa using empty) run
      · cases found
        trivial

theorem tokenize_hasWord {text : List Char} {tokens : List Token}
    (found : tokenize text = some tokens) : ∀ token ∈ tokens, token.HasWord := by
  fun_induction tokenize text generalizing tokens with
  | case1 text blank =>
      cases found
      simp
  | case2 text start rest _ missing => cases found
  | case3 text start rest begins token behind cut inductionHypothesis =>
      obtain ⟨others, more, rfl⟩ := Option.map_eq_some_iff.mp found
      exact List.forall_mem_cons.mpr ⟨cut?_hasWord cut, inductionHypothesis more⟩

end Token

open Token

namespace Derivation

/-- What holds of the first item and is kept by each further one holds of the chain. -/
theorem Chain.node_induction {Item : Type} {build : Node → Node → Node} {itemNode : Item → Node}
    (Property : Node → Prop) (chain : Chain Item) (start : Property (itemNode chain.first))
    (step : ∀ left, Property left → ∀ item ∈ chain.others, Property (build left (itemNode item))) :
    Property (chain.node build itemNode) :=
  List.foldlRecOn chain.others _ start step

theorem Atom.isExpression_node {atom : Atom} (words : ∀ token ∈ atom.tokens, token.HasWord) :
    atom.node.isExpression = true := by
  cases atom with
  | literal digits => rfl
  | reference name => exact words (.reference name) (by simp [Atom.tokens])

/-- What holds of the items whose names are words, and of what is built from such trees, holds of a
chain whose names are words. -/
theorem Chain.node_of_words {Item : Type} {build : Node → Node → Node} {itemNode : Item → Node}
    {itemTokens : Item → List Token} {sign : Char} {chain : Chain Item} (Property : Node → Prop)
    (words : ∀ token ∈ chain.tokens sign itemTokens, token.HasWord)
    (item : ∀ {item}, (∀ token ∈ itemTokens item, token.HasWord) → Property (itemNode item))
    (built : ∀ left right, Property left → Property right → Property (build left right)) :
    Property (chain.node build itemNode) := by
  rw [Chain.tokens, List.forall_mem_append] at words
  refine Chain.node_induction Property chain (item words.1) ?_
  intro left held other member
  apply built left _ held
  apply item
  intro token inside
  exact words.2 token (List.mem_flatMap.mpr ⟨other, member, List.mem_cons_of_mem _ inside⟩)

theorem isExpression_termNode {term : Term} (words : ∀ token ∈ termTokens term, token.HasWord) :
    (termNode term).isExpression = true := by
  refine Chain.node_of_words (fun node => node.isExpression = true) words
    Atom.isExpression_node ?_
  intro left right typed typedRight
  rw [Node.isExpression, typed, typedRight, Bool.and_self]

theorem isExpression_expressionNode {expression : Expression}
    (words : ∀ token ∈ expressionTokens expression, token.HasWord) :
    (expressionNode expression).isExpression = true := by
  refine Chain.node_of_words (fun node => node.isExpression = true) words
    isExpression_termNode ?_
  intro left right typed typedRight
  rw [Node.isExpression, typed, typedRight, Bool.and_self]

theorem ProcedureName.isProcedureName_word {name : ProcedureName}
    (isWord : Text.isWord name.word = true) : Node.isProcedureName name.word = true := by
  simp [Node.isProcedureName, isWord, name.unreserved]

mutual

/-- The tree of a statement whose names are words is a statement. -/
theorem Statement.isStatement_node (statement : Statement)
    (words : ∀ token ∈ statement.tokens, token.HasWord) :
    statement.node.isStatement = true := by
  cases statement with
  | command command operand =>
      have typed := isExpression_expressionNode (List.forall_mem_cons.mp words).2
      cases command <;> exact typed
  | loop times body =>
      have parts := List.forall_mem_append.mp (List.forall_mem_cons.mp words).2
      simp [Statement.node, Node.isStatement, isExpression_expressionNode parts.1,
        body.isStatement_node parts.2]
  | define name params body =>
      simp only [Statement.tokens, List.forall_mem_cons, List.forall_mem_append] at words
      obtain ⟨-, named, listed, inside, -⟩ := words
      have checked : params.all Text.isWord = true := by
        rw [List.all_eq_true]
        intro param member
        exact listed (.reference param) (List.mem_map_of_mem member)
      simp [Statement.node, Node.isStatement, name.isProcedureName_word named, checked,
        body.isStatement_node inside]
  | branch left right body =>
      simp only [Statement.tokens, List.forall_mem_cons, List.forall_mem_append] at words
      obtain ⟨-, front, -, back, inside⟩ := words
      simp [Statement.node, Node.isStatement, Node.isComparison,
        isExpression_expressionNode front, isExpression_expressionNode back,
        body.isStatement_node inside]
  | stop => rfl
  | call name args =>
      obtain ⟨named, listed⟩ := List.forall_mem_cons.mp words
      have checked : (args.map expressionNode).all Node.isExpression = true := by
        rw [List.all_map, List.all_eq_true]
        intro arg member
        apply isExpression_expressionNode
        intro token inside
        exact listed token (List.mem_flatMap.mpr ⟨arg, member, inside⟩)
      simp [Statement.node, Node.isStatement, name.isProcedureName_word named, checked]
  | block body =>
      have parts := List.forall_mem_append.mp (List.forall_mem_cons.mp words).2
      exact body.isStatement_node parts.1

theorem Statements.isStatement_node (statements : Statements)
    (words : ∀ token ∈ statements.tokens, token.HasWord) :
    statements.node.isStatement = true := by
  cases statements with
  | last statement => exact statement.isStatement_node words
  | next statement rest =>
      have parts := List.forall_mem_append.mp words
      simp [Statements.node, Node.isStatement, statement.isStatement_node parts.1,
        rest.isStatement_node parts.2]

end

mutual

/-- A tree nests no deeper than its derivation, in which brackets may stand without need. -/
theorem Statement.nesting_node_le (statement : Statement) :
    statement.node.nesting + statement.node.bracketLevel ≤ statement.nesting := by
  cases statement with
  | command command operand => cases command <;> exact Nat.le_refl 1
  | loop times body => exact Nat.succ_le_succ body.nesting_node_le
  | define name params body => exact Nat.succ_le_succ body.nesting_node_le
  | branch left right body => exact Nat.succ_le_succ body.nesting_node_le
  | stop => exact Nat.le_refl 1
  | call name args => exact Nat.le_refl 1
  | block body =>
      have level : body.node.bracketLevel ≤ 1 := by
        cases body.node <;> simp [Node.bracketLevel]
      have inside := body.nesting_node_le
      simp only [Statement.node, Statement.nesting]
      omega

theorem Statements.nesting_node_le (statements : Statements) :
    statements.node.nesting ≤ statements.nesting := by
  cases statements with
  | last statement =>
      have single := statement.nesting_node_le
      simp only [Statements.node, Statements.nesting]
      omega
  | next statement rest =>
      have first := statement.nesting_node_le
      have others := rest.nesting_node_le
      simp only [Statements.node, Statements.nesting, Node.nesting]
      omega

end

end Derivation

end Turtle
