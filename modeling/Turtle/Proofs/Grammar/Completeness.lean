import Turtle.Proofs.Grammar.Soundness
import Mathlib.Data.List.Forall2

/-
This file shows that every derivation within the depth is matched. The next token decides between
the alternatives of a statement, so no alternative hides another one.
-/

namespace Turtle

open Token Turtle.Derivation

namespace Token

/-- A procedure ends before its last word, so that word starts no statement. -/
def startsStatement : Token → Bool
  | .name word => word != "end"
  | .symbol char => char == '['
  | .literal _ | .reference _ => false

/-- These tokens carry on a statement that ends in an expression. -/
def extendsStatement (token : Token) : Bool :=
  token.extendsExpression || token.startsAtom

/-- These tokens carry on a run of statements. -/
def extendsRun (token : Token) : Bool :=
  token.extendsStatement || token.startsStatement

def isUnreservedName : Token → Bool
  | .name word => !reservedWords.contains word
  | .literal _ | .reference _ | .symbol _ => false

/-- A token that starts a statement does not carry on the one before it. -/
theorem extendsStatement_of_starts {token : Token} (starts : token.startsStatement = true) :
    token.extendsStatement = false := by
  cases token with
  | name word => rfl
  | symbol char =>
      simp only [startsStatement, beq_iff_eq] at starts
      subst starts
      rfl
  | literal digits => cases starts
  | reference word => cases starts

end Token

namespace Derivation

theorem Statement.tokens_starts (statement : Statement) :
    ∃ token more, statement.tokens = token :: more ∧ token.startsStatement = true := by
  cases statement with
  | command kind operand => cases kind <;> exact ⟨_, _, rfl, by decide⟩
  | loop times body => exact ⟨_, _, rfl, by decide⟩
  | define name params body => exact ⟨_, _, rfl, by decide⟩
  | branch left right body => exact ⟨_, _, rfl, by decide⟩
  | stop => exact ⟨_, _, rfl, by decide⟩
  | call name args =>
      refine ⟨_, _, rfl, ?_⟩
      simp only [startsStatement, bne_iff_ne]
      intro reserved
      exact name.unreserved (by simp [reserved, reservedWords])
  | block body => exact ⟨_, _, rfl, by decide⟩

theorem Statements.tokens_starts (statements : Statements) :
    ∃ token more, statements.tokens = token :: more ∧ token.startsStatement = true := by
  cases statements with
  | last statement => exact statement.tokens_starts
  | next statement rest =>
      obtain ⟨token, more, first, starts⟩ := statement.tokens_starts
      exact ⟨token, more ++ rest.tokens, by rw [Statements.tokens, first]; rfl, starts⟩

theorem Statement.nesting_pos (statement : Statement) : 0 < statement.nesting := by
  cases statement <;> simp [Statement.nesting]

/-- The trees of the single statements fold to the tree of the run. -/
def Statements.nodes : Statements → List Node
  | .last statement => [statement.node]
  | .next statement rest => statement.node :: rest.nodes

theorem Statements.foldRight?_nodes (statements : Statements) :
    Parser.foldRight? Node.seq statements.nodes = some statements.node := by
  match statements with
  | .last statement => rfl
  | .next statement rest =>
      have tail := foldRight?_nodes rest
      cases rest <;> simp_all [Statements.nodes, Statements.node, Parser.foldRight?]

end Derivation

/-- The first token of a statement stands where an expression or a statement has ended. -/
theorem avoids_of_starts {tokens : List Token} {text rest : List Char}
    (begins : ∃ token more, tokens = token :: more ∧ token.startsStatement = true)
    (reads : Reads text tokens rest) : Avoids extendsStatement text := by
  obtain ⟨token, others, rfl, starts⟩ := begins
  exact avoids_of_reads reads (extendsStatement_of_starts starts)

theorem Avoids.expression {text : List Char} (avoids : Avoids extendsStatement text) :
    Avoids extendsExpression text :=
  avoids.mono fun token extended => by simp [extendsStatement, extended]

theorem Avoids.atom {text : List Char} (avoids : Avoids extendsStatement text) :
    Avoids startsAtom text :=
  avoids.mono fun token extended => by simp [extendsStatement, extended]

namespace Rule

open Turtle.Parser

/-- A rule does not match unless the next token is one that selects it. -/
def SelectedBy (select : Token → Bool) (rule : Rule Node) : Prop :=
  ∀ ⦃text : List Char⦄, Avoids select text → rule (.ofList text) = .unmatched

def leadingWords : List String :=
  ["fd", "rt", "seth", "repeat", "to", "if", "stop"]

/-- Each alternative of a statement is selected by its word, by a free name or by a bracket. -/
def selectors : List (Token → Bool) :=
  leadingWords.map (fun word token => token == .name word) ++
    [isUnreservedName, (· == .symbol '[')]

theorem keyword_unmatched {word : String} {text : List Char}
    (avoids : Avoids (· == .name word) text) : keyword word (.ofList text) = .unmatched :=
  guard_name_unmatched avoids (by simp)

theorem unreserved_unmatched {text : List Char} (avoids : Avoids isUnreservedName text) :
    unreserved (.ofList text) = .unmatched :=
  guard_name_unmatched avoids (by simp [isUnreservedName])

theorem alternatives_selected (inner : Rule Node) :
    List.Forall₂ SelectedBy selectors (alternatives inner) := by
  have byKeyword (word : String) (next : String → Rule Node) :
      SelectedBy (· == .name word) (keyword word >>= next) :=
    fun _ avoids => bind_of_unmatched next (keyword_unmatched avoids)
  have byName (next : String → Rule Node) : SelectedBy isUnreservedName (unreserved >>= next) :=
    fun _ avoids => bind_of_unmatched next (unreserved_unmatched avoids)
  have byBracket (next : Char → Rule Node) :
      SelectedBy (· == .symbol '[') (Parser.symbol '[' >>= next) :=
    fun _ avoids => bind_of_unmatched next (symbol_unmatched (by decide) avoids)
  exact .cons (byKeyword _ _) (.cons (byKeyword _ _) (.cons (byKeyword _ _)
    (.cons (byKeyword _ _) (.cons (byKeyword _ _) (.cons (byKeyword _ _) (.cons (byKeyword _ _)
      (.cons (byName _) (.cons (byBracket _) .nil))))))))

theorem leadingWords_reserved {word : String} (member : word ∈ leadingWords) :
    word ∈ reservedWords ∧ word ≠ "end" := by
  revert word
  decide

/-- No token selects two alternatives. -/
theorem selectors_disjoint :
    selectors.Pairwise fun first second =>
      ∀ token, first token = false ∨ second token = false := by
  have distinct : leadingWords.Pairwise (· ≠ ·) := by decide
  refine List.pairwise_append.mpr ⟨List.pairwise_map.mpr (distinct.imp ?_), ?_, ?_⟩
  · intro first second different token
    by_cases same : token = .name first
    · subst same
      exact .inr (by simpa using different)
    · exact .inl (by simpa using same)
  · simp only [List.pairwise_cons, List.mem_singleton, List.not_mem_nil, List.Pairwise.nil]
    refine ⟨?_, by simp⟩
    rintro second rfl token
    cases token <;> simp [isUnreservedName]
  · intro first inWords second inOthers token
    obtain ⟨word, member, rfl⟩ := List.mem_map.mp inWords
    by_cases same : token = .name word
    · subst same
      simp only [List.mem_cons, List.not_mem_nil, or_false] at inOthers
      rcases inOthers with rfl | rfl
      · exact .inr (by simp [isUnreservedName, (leadingWords_reserved member).1])
      · exact .inr rfl
    · exact .inl (by simpa using same)

/-- A selected alternative starts a statement. -/
theorem selectors_start {select : Token → Bool} (member : select ∈ selectors) {token : Token}
    (selected : select token = true) : token.startsStatement = true := by
  rcases List.mem_append.mp member with inWords | inOthers
  · obtain ⟨word, leading, rfl⟩ := List.mem_map.mp inWords
    rw [beq_iff_eq] at selected
    subst selected
    simp [startsStatement, (leadingWords_reserved leading).2]
  · simp only [List.mem_cons, List.not_mem_nil, or_false] at inOthers
    rcases inOthers with rfl | rfl
    · cases token with
      | name word =>
          simp only [startsStatement, bne_iff_ne]
          rintro rfl
          cases selected
      | literal digits => cases selected
      | reference word => cases selected
      | symbol char => cases selected
    · rw [beq_iff_eq] at selected
      subst selected
      rfl

theorem exists_of_forall₂ {α β : Type} {related : α → β → Prop} {first : List α}
    {second : List β} (pairs : List.Forall₂ related first second) {b : β} (member : b ∈ second) :
    ∃ a ∈ first, related a b := by
  induction pairs with
  | nil => cases member
  | @cons a _ _ _ here _ inductionHypothesis =>
      rcases List.mem_cons.mp member with rfl | inRest
      · exact ⟨a, by simp, here⟩
      · obtain ⟨other, inFirst, there⟩ := inductionHypothesis inRest
        exact ⟨other, by simp [inFirst], there⟩

theorem pairwise_of_forall₂ {α β : Type} {related : α → β → Prop} {before : α → α → Prop}
    {after : β → β → Prop} {first : List α} {second : List β}
    (pairs : List.Forall₂ related first second) (separate : first.Pairwise before)
    (carried : ∀ {a b c d}, related a c → related b d → before a b → after c d) :
    second.Pairwise after := by
  induction pairs with
  | nil => exact .nil
  | cons here rest inductionHypothesis =>
      obtain ⟨separateHere, separateRest⟩ := List.pairwise_cons.mp separate
      refine List.pairwise_cons.mpr ⟨?_, inductionHypothesis separateRest⟩
      intro d member
      obtain ⟨b, inFirst, there⟩ := exists_of_forall₂ rest member
      exact carried here there (separateHere b inFirst)

/-- At most one alternative of a statement applies at any place of any text. -/
theorem alternatives_exclusive (inner : Rule Node) (text : List Char) :
    (alternatives inner).Pairwise fun first second =>
      first (.ofList text) = .unmatched ∨ second (.ofList text) = .unmatched := by
  refine pairwise_of_forall₂ (alternatives_selected inner) selectors_disjoint ?_
  intro first second rule other selected otherSelected disjoint
  rcases scanned : scan text with _ | ⟨token, rest⟩
  · exact .inl (selected fun token rest found => by simp [scanned] at found)
  · have decides (select : Token → Bool) (refused : select token = false) :
        Avoids select text := by
      intro found behind same
      rw [scanned] at same
      cases same
      exact refused
    rcases disjoint token with refused | refused
    · exact .inl (selected (decides first refused))
    · exact .inr (otherSelected (decides second refused))

theorem statement_of_alternative {depth : Nat} {rule : Rule Node} {text : List Char}
    {node : Node} {rest : Cursor} (member : rule ∈ alternatives (statement depth))
    (matched : rule (.ofList text) = .matched node rest) :
    statement (depth + 1) (.ofList text) = .matched node rest := by
  have applies : rule (.ofList text) ≠ .unmatched := by simp [matched]
  have chosen := choice_of_exclusive (alternatives_exclusive (statement depth) text) member applies
  exact chosen.trans matched

/-- Where no statement starts, no statement is matched. -/
theorem statement_unmatched {depth : Nat} {text : List Char}
    (avoids : Avoids startsStatement text) :
    statement (depth + 1) (.ofList text) = .unmatched := by
  apply choice_unmatched
  intro rule member
  obtain ⟨select, inSelectors, selected⟩ :=
    exists_of_forall₂ (alternatives_selected (statement depth)) member
  exact selected (avoids.mono fun _ => selectors_start inSelectors)

/-- The rule matches these tokens with this value unless the text carries them on. -/
def Takes {Value : Type} (rule : Rule Value) (tokens : List Token) (value : Value)
    (extending : Token → Bool) : Prop :=
  ∀ ⦃text rest : List Char⦄, Reads text tokens rest → Avoids extending rest →
    rule (.ofList text) = .matched value (.ofList rest)

theorem command_takes (kind : Command) (operand : Expression) :
    Takes (command kind.word kind.build) (Statement.command kind operand).tokens
      (Statement.command kind operand).node extendsStatement := by
  intro text rest reads avoids
  obtain ⟨middle, word, more⟩ := reads.uncons
  unfold command
  rw [bind_of_matched _ (keyword_of_scan word),
    bind_of_matched _ (expression_complete more avoids.expression)]
  rfl

theorem stop_takes : Takes stop Statement.stop.tokens Statement.stop.node extendsStatement := by
  intro text rest reads avoids
  obtain ⟨middle, word, more⟩ := reads.uncons
  cases more
  unfold stop
  rw [bind_of_matched _ (keyword_of_scan word)]
  rfl

theorem call_takes (name : ProcedureName) (args : List Expression) :
    Takes call (Statement.call name args).tokens (Statement.call name args).node
      extendsStatement := by
  intro text rest reads avoids
  obtain ⟨middle, word, more⟩ := reads.uncons
  have starts : ∀ arg, ∃ token more, expressionTokens arg = token :: more ∧
      extendsExpression token = false := by
    intro arg
    obtain ⟨token, others, first, atom⟩ := expressionTokens_starts arg
    refine ⟨token, others, first, ?_⟩
    cases token <;> simp_all [startsAtom, extendsExpression]
  have listed := many_complete expression_complete starts more avoids.expression
    (expression_unmatched avoids.atom)
  unfold call
  rw [bind_of_matched _ (unreserved_of_scan word), bind_of_matched _ listed]
  rfl

section Bodies

variable {inner : Rule Node}

theorem loop_takes (times : Expression) {body : Statement}
    (takes : Takes inner body.tokens body.node extendsStatement) :
    Takes (loop inner) (Statement.loop times body).tokens (Statement.loop times body).node
      extendsStatement := by
  intro text rest reads avoids
  obtain ⟨middle, word, more⟩ := reads.uncons
  obtain ⟨last, count, bodyReads⟩ := more.split
  have ends := avoids_of_starts body.tokens_starts bodyReads
  unfold loop
  rw [bind_of_matched _ (keyword_of_scan word),
    bind_of_matched _ (expression_complete count ends.expression),
    bind_of_matched _ (takes bodyReads avoids)]
  rfl

theorem comparison_of_reads {left right : Expression} {text behind middle rest : List Char}
    (first : Reads text (expressionTokens left) behind)
    (firstEnds : Avoids extendsExpression behind)
    (sign : scan behind = some (.symbol '=', middle))
    (second : Reads middle (expressionTokens right) rest)
    (secondEnds : Avoids extendsExpression rest) :
    comparison (.ofList text) =
      .matched (.eq (expressionNode left) (expressionNode right)) (.ofList rest) := by
  unfold comparison
  rw [bind_of_matched _ (expression_complete first firstEnds),
    bind_of_matched _ (symbol_of_scan (by decide) sign),
    bind_of_matched _ (expression_complete second secondEnds)]
  rfl

theorem branch_takes (left right : Expression) {body : Statement}
    (takes : Takes inner body.tokens body.node extendsStatement) :
    Takes (branch inner) (Statement.branch left right body).tokens
      (Statement.branch left right body).node extendsStatement := by
  intro text rest reads avoids
  obtain ⟨_, word, more⟩ := reads.uncons
  obtain ⟨_, first, more⟩ := more.split
  have signEnds := avoids_of_reads more (show extendsExpression (.symbol '=') = false by decide)
  obtain ⟨_, sign, more⟩ := more.uncons
  obtain ⟨last, second, bodyReads⟩ := more.split
  have ends := avoids_of_starts body.tokens_starts bodyReads
  have condition := comparison_of_reads first signEnds sign second ends.expression
  unfold branch
  rw [bind_of_matched _ (keyword_of_scan word), bind_of_matched _ condition,
    bind_of_matched _ (takes bodyReads avoids)]
  rfl

theorem define_takes (name : ProcedureName) (params : List String) {body : Statements}
    (takes : Takes (statementsOf inner) body.tokens body.node extendsRun) :
    Takes (definition inner) (Statement.define name params body).tokens
      (Statement.define name params body).node extendsStatement := by
  intro text rest reads avoids
  obtain ⟨_, word, more⟩ := reads.uncons
  obtain ⟨_, named, more⟩ := more.uncons
  obtain ⟨_, paramsRead, more⟩ := more.split
  obtain ⟨_, bodyReads, more⟩ := more.split
  have paramsEnd := avoids_of_starts body.tokens_starts bodyReads
  have bodyEnds := avoids_of_reads more (show extendsRun (.name "end") = false by decide)
  obtain ⟨_, ending, more⟩ := more.uncons
  cases more
  rw [List.map_eq_flatMap] at paramsRead
  have listed := many_complete variableName_complete (fun _ => ⟨_, _, rfl, rfl⟩) paramsRead
    (fun _ _ _ => rfl) (variableName_unmatched paramsEnd.atom)
  rw [List.map_id] at listed
  unfold definition
  rw [bind_of_matched _ (keyword_of_scan word), bind_of_matched _ (unreserved_of_scan named),
    bind_of_matched _ listed, bind_of_matched _ (takes bodyReads bodyEnds),
    bind_of_matched _ (keyword_of_scan ending)]
  rfl

theorem block_takes {body : Statements}
    (takes : Takes (statementsOf inner) body.tokens body.node extendsRun) :
    Takes (block inner) (Statement.block body).tokens (Statement.block body).node
      extendsStatement := by
  intro text rest reads avoids
  obtain ⟨_, opening, more⟩ := reads.uncons
  obtain ⟨_, bodyReads, more⟩ := more.split
  have bodyEnds := avoids_of_reads more (show extendsRun (.symbol ']') = false by decide)
  obtain ⟨_, closing, more⟩ := more.uncons
  cases more
  unfold block brackets
  rw [bind_of_matched _ (symbol_of_scan (by decide) opening),
    bind_of_matched _ (takes bodyReads bodyEnds),
    bind_of_matched _ (symbol_of_scan (by decide) closing)]
  rfl

end Bodies

end Rule

end Turtle
