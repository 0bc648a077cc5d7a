import Turtle.Proofs.Source.Coverage

/-
This file compares the list of the procedures of a program with its text. The walk over the tree
finds the definitions in the order in which their keywords stand in the text.
-/

namespace Turtle

namespace Token

/-- The second of two neighbours is a name and the first one is the keyword. -/
def nameBehind? (keyword : String) : Token × Token → Option String
  | (.name word, .name next) => if word = keyword then some next else none
  | _ => none

/-- These names stand right behind the keyword, from left to right. -/
def namesBehind (keyword : String) (tokens : List Token) : List String :=
  (tokens.zip tokens.tail).filterMap (nameBehind? keyword)

theorem namesBehind_cons {keyword : String} {token : Token} (other : token ≠ .name keyword)
    (tokens : List Token) : namesBehind keyword (token :: tokens) = namesBehind keyword tokens := by
  cases tokens with
  | nil => rfl
  | cons next rest =>
      have missing : nameBehind? keyword (token, next) = none := by
        cases token <;> cases next <;> simp_all [nameBehind?]
      simp only [namesBehind, List.tail_cons, List.zip_cons_cons, List.filterMap_cons, missing]

theorem namesBehind_keyword (keyword next : String) (tokens : List Token) :
    namesBehind keyword (.name keyword :: .name next :: tokens) =
      next :: namesBehind keyword (.name next :: tokens) := by
  simp [namesBehind, nameBehind?]

/-- The tokens define these names, one behind each keyword, whatever follows them. -/
structure Defines (tokens : List Token) (names : List String) : Prop where
  count : tokens.count (.name "to") = names.length
  behind : ∀ more, namesBehind "to" (tokens ++ more) = names ++ namesBehind "to" more

namespace Defines

theorem append {tokens others : List Token} {names more : List String}
    (first : Defines tokens names) (second : Defines others more) :
    Defines (tokens ++ others) (names ++ more) where
  count := by rw [List.count_append, List.length_append, first.count, second.count]
  behind rest := by rw [List.append_assoc, List.append_assoc, first.behind, second.behind]

/-- Tokens without the keyword define nothing. -/
theorem nothing {tokens : List Token} (quiet : ∀ token ∈ tokens, token ≠ .name "to") :
    Defines tokens [] where
  count := List.count_eq_zero_of_not_mem fun member => quiet _ member rfl
  behind more := by
    induction tokens with
    | nil => rfl
    | cons token rest inductionHypothesis =>
        obtain ⟨here, there⟩ := List.forall_mem_cons.mp quiet
        rw [List.cons_append, namesBehind_cons here, inductionHypothesis there]

theorem cons {token : Token} {tokens : List Token} {names : List String}
    (other : token ≠ .name "to") (rest : Defines tokens names) :
    Defines (token :: tokens) names := by
  have alone : Defines [token] [] := nothing (by simpa using other)
  exact alone.append rest

/-- The name behind the keyword comes before the names that the body defines. -/
theorem keyword {next : String} {tokens : List Token} {names : List String}
    (other : next ≠ "to") (body : Defines tokens names) :
    Defines (.name "to" :: .name next :: tokens) (next :: names) := by
  have named : Token.name next ≠ .name "to" := by simpa using other
  constructor
  · rw [List.count_cons_self, List.count_cons_of_ne named, body.count, List.length_cons]
  · intro more
    rw [List.cons_append, List.cons_append, namesBehind_keyword, namesBehind_cons named,
      body.behind, List.cons_append]

end Defines

end Token

namespace Node

/-- These procedures are defined in a tree, in the order in which they occur and with
repetitions. -/
def listing (node : Node) : List String :=
  node.occurrences.filterMap definedName?

/-- The procedures of a node are its own and then those of its parts. -/
theorem listing_eq (node : Node) :
    node.listing = node.definedName?.toList ++ node.parts.flatMap listing := by
  rw [listing, occurrences_eq, List.filterMap_cons, List.filterMap_flatMap]
  cases node.definedName? <;> rfl

/-- The procedures are listed when the frames are enough for the height of the tree. -/
theorem procedureNames_eq (node : Node) (frames : Nat) :
    node.procedureNames frames = if node.height ≤ frames then some node.listing else none := by
  rw [procedureNames, walk_eq]
  split <;> rfl

end Node

open Token

namespace Derivation

theorem Chain.forall_tokens {Item : Type} {itemTokens : Item → List Token} {sign : Char}
    {Property : Token → Prop} (items : ∀ item, ∀ token ∈ itemTokens item, Property token)
    (operator : Property (.symbol sign)) (chain : Chain Item) :
    ∀ token ∈ chain.tokens sign itemTokens, Property token := by
  intro token member
  rcases List.mem_append.mp member with first | others
  · exact items _ token first
  · obtain ⟨item, -, inside⟩ := List.mem_flatMap.mp others
    rcases List.mem_cons.mp inside with rfl | operand
    · exact operator
    · exact items item token operand

/-- An expression holds no keyword. -/
theorem defines_expressionTokens (expression : Expression) :
    Defines (expressionTokens expression) [] := by
  apply Defines.nothing
  refine Chain.forall_tokens (Chain.forall_tokens ?_ nofun) nofun expression
  intro atom token member
  cases atom <;> simp_all [Atom.tokens]

theorem defines_arguments (args : List Expression) :
    Defines (args.flatMap expressionTokens) [] := by
  induction args with
  | nil => exact .nothing (by simp)
  | cons arg rest inductionHypothesis =>
      exact (defines_expressionTokens arg).append inductionHypothesis

theorem listing_expressionNode (expression : Expression) :
    (expressionNode expression).listing = [] := by
  have atoms (atom : Atom) : atom.node.listing = [] := by cases atom <;> rfl
  have terms (term : Term) : (termNode term).listing = [] := by
    refine Chain.node_induction (fun node => node.listing = []) term (atoms term.first) ?_
    intro left quiet atom _
    rw [Node.listing_eq]
    simp [Node.parts, Node.definedName?, quiet, atoms]
  refine Chain.node_induction (fun node => node.listing = []) expression
    (terms expression.first) ?_
  intro left quiet term _
  rw [Node.listing_eq]
  simp [Node.parts, Node.definedName?, quiet, terms]

theorem listing_comparison (left right : Expression) :
    (Node.eq (expressionNode left) (expressionNode right)).listing = [] := by
  rw [Node.listing_eq]
  simp [Node.parts, Node.definedName?, listing_expressionNode]

theorem ProcedureName.word_ne_to (name : ProcedureName) : name.word ≠ "to" := by
  intro same
  exact name.unreserved (by simp [same, reservedWords])

mutual

/-- The tokens of a statement define the procedures of its tree. -/
theorem Statement.defines (statement : Statement) :
    Defines statement.tokens statement.node.listing := by
  cases statement with
  | command command operand =>
      have operands := defines_expressionTokens operand
      rw [Statement.tokens, Statement.node, Node.listing_eq]
      cases command <;>
        simpa [Command.build, Node.parts, Node.definedName?, listing_expressionNode] using
          operands.cons (by decide)
  | loop times body =>
      have parts := (defines_expressionTokens times).append body.defines
      rw [Statement.tokens, Statement.node, Node.listing_eq]
      simpa [Node.parts, Node.definedName?, listing_expressionNode] using
        parts.cons (by decide)
  | define name params body =>
      have listed : Defines (params.map Token.reference) [] := .nothing (by simp)
      have ending : Defines [.name "end"] [] := .nothing (by decide)
      have parts := listed.append (body.defines.append ending)
      rw [Statement.tokens, Statement.node, Node.listing_eq]
      simpa [Node.parts, Node.definedName?] using parts.keyword name.word_ne_to
  | branch left right body =>
      have equals : Token.symbol '=' ≠ .name "to" := by decide
      have parts := (defines_expressionTokens left).append
        (((defines_expressionTokens right).append body.defines).cons equals)
      rw [Statement.tokens, Statement.node, Node.listing_eq]
      simpa [Node.parts, Node.definedName?, listing_comparison] using
        parts.cons (by decide)
  | stop => exact .nothing (by decide)
  | call name args =>
      have named : Token.name name.word ≠ .name "to" := by simpa using name.word_ne_to
      have quiet : (args.map expressionNode).flatMap Node.listing = [] := by
        simp [listing_expressionNode]
      rw [Statement.tokens, Statement.node, Node.listing_eq, Node.parts, quiet]
      exact (defines_arguments args).cons named
  | block body =>
      have ending : Defines [.symbol ']'] [] := .nothing (by decide)
      rw [Statement.tokens, Statement.node]
      simpa using (body.defines.append ending).cons (by decide)

theorem Statements.defines (statements : Statements) :
    Defines statements.tokens statements.node.listing := by
  cases statements with
  | last statement => exact statement.defines
  | next statement rest =>
      rw [Statements.tokens, Statements.node, Node.listing_eq]
      simpa [Node.parts, Node.definedName?] using statement.defines.append rest.defines

end

end Derivation

namespace Program

end Program

end Turtle
