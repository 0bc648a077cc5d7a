import Turtle.Proofs.Outline.Lines
import Turtle.Proofs.Source.Coverage

/-
This file shows that the outline of a program determines its tree up to the nesting of sequences.
The tree of a derivation is shaped at every level, so its rows can be read back.
-/

namespace Turtle

namespace Head

theorem kind_head (node : Node) : node.head.kind = node.kind := by
  cases node <;> rfl

end Head

namespace Node

/-- A node is single when it is one shaped tree, as an operand is. -/
def Single (node : Node) : Prop :=
  ∃ item, node.flat = [item] ∧ item.Shaped

/-- The statements in a node are shaped trees, whether they stand in a sequence or alone. -/
def Shaped (node : Node) : Prop :=
  ∀ item ∈ node.flat, item.Shaped

theorem Single.shaped {node : Node} (single : node.Single) : node.Shaped := by
  obtain ⟨item, alone, shaped⟩ := single
  rw [Shaped, alone]
  simpa using shaped

theorem map_flat_of_single {operands : List Node} (single : ∀ operand ∈ operands, operand.Single) :
    operands.map flat = (operands.map flat).flatten.map ([·]) := by
  induction operands with
  | nil => rfl
  | cons operand rest inductionHypothesis =>
      obtain ⟨⟨item, alone, -⟩, others⟩ := List.forall_mem_cons.mp single
      rw [List.map_cons, alone, List.flatten_cons, List.map_append, ← inductionHypothesis others]
      rfl

/-- A node with operands alone is single when they are. -/
theorem single_of_operands {node : Node}
    (operational : node.kind ∉ [Kind.seq, .loop, .branch, .define])
    (legible : node.head.Legible) (single : ∀ operand ∈ node.parts, operand.Single) :
    node.Single := by
  have apart : node.kind ≠ .seq := by
    intro sequence
    simp [sequence] at operational
  refine ⟨.mk node.head (node.parts.map flat), by rw [flat_eq, if_neg apart], ?_⟩
  have grouped (items : List Flat) : Flat.regroup node.kind items = items.map ([·]) := by
    cases kind : node.kind <;> simp_all [Flat.regroup]
  refine .mk legible ?_ ?_
  · rw [Head.kind_head, grouped, ← map_flat_of_single single]
  · intro item member
    rw [← List.flatMap_def] at member
    obtain ⟨operand, part, inside⟩ := List.mem_flatMap.mp member
    exact (single operand part).shaped item inside

theorem single_of_plain {node : Node}
    (plain : node.kind ∉ [Kind.seq, .loop, .branch, .define, .const, .var, .call])
    (single : ∀ operand ∈ node.parts, operand.Single) : node.Single := by
  have legible : node.head.Legible := by
    cases node <;> simp_all [kind, head, Head.Legible]
  exact single_of_operands (by simp_all) legible single

/-- A loop or a branch takes one operand, and all that follows is its body. -/
theorem shaped_of_body {head : Head} (legible : head.Legible)
    (bodied : head.kind = .loop ∨ head.kind = .branch) {operand body : Node}
    (single : operand.Single) (shaped : body.Shaped) :
    (Flat.mk head [operand.flat, body.flat]).Shaped := by
  obtain ⟨item, alone, inside⟩ := single
  refine .mk legible ?_ ?_
  · rcases bodied with kind | kind <;> simp [kind, alone, Flat.regroup]
  · rw [alone]
    simpa using ⟨inside, shaped⟩

end Node

namespace Derivation

theorem Atom.single_node {atom : Atom} (words : ∀ token ∈ atom.tokens, token.HasWord) :
    atom.node.Single := by
  cases atom with
  | literal digits =>
      have legible : (Rule.literal (Rule.digitsValue digits)).head.Legible :=
        ⟨Rule.digitsValue digits, rfl⟩
      exact Node.single_of_operands (by simp [node, Rule.literal, Node.kind]) legible
        (List.forall_mem_nil _)
  | reference name =>
      have word := words (.reference name) (by simp [Atom.tokens])
      exact Node.single_of_operands (by simp [node, Node.kind]) word (List.forall_mem_nil _)

theorem single_expressionNode {expression : Expression}
    (words : ∀ token ∈ expressionTokens expression, token.HasWord) :
    (expressionNode expression).Single := by
  refine Chain.node_of_words Node.Single words (fun inside => ?_) ?_
  · refine Chain.node_of_words Node.Single inside Atom.single_node ?_
    intro left right single singleRight
    exact Node.single_of_plain (by simp [Node.kind]) (by simp_all [Node.parts])
  · intro left right single singleRight
    exact Node.single_of_plain (by simp [Node.kind]) (by simp_all [Node.parts])

mutual

/-- The tree of a statement whose names are words is shaped. -/
theorem Statement.shaped_node (statement : Statement)
    (words : ∀ token ∈ statement.tokens, token.HasWord) : statement.node.Shaped := by
  cases statement with
  | command command operand =>
      have single := single_expressionNode (List.forall_mem_cons.mp words).2
      apply Node.Single.shaped
      cases command <;>
        exact Node.single_of_plain (by simp [Statement.node, Command.build, Node.kind])
          (by simpa [Statement.node, Command.build, Node.parts] using single)
  | loop times body =>
      have parts := List.forall_mem_append.mp (List.forall_mem_cons.mp words).2
      have legible : (Head.plain .loop).Legible := by simp [Head.Legible]
      have shaped := Node.shaped_of_body legible (.inl rfl) (single_expressionNode parts.1)
        (body.shaped_node parts.2)
      simpa [Node.Shaped, Statement.node, Node.flat] using shaped
  | define name params body =>
      simp only [Statement.tokens, List.forall_mem_cons, List.forall_mem_append] at words
      obtain ⟨-, named, listed, inside, -⟩ := words
      have legible : (Head.define name.word params).Legible :=
        ⟨named, fun param member => listed (.reference param) (List.mem_map_of_mem member)⟩
      have shaped : (Flat.mk (.define name.word params) [body.node.flat]).Shaped :=
        .mk legible (by simp [Head.kind, Flat.regroup])
          (by simpa [Node.Shaped] using body.shaped_node inside)
      simpa [Node.Shaped, Statement.node, Node.flat] using shaped
  | branch left right body =>
      simp only [Statement.tokens, List.forall_mem_cons, List.forall_mem_append] at words
      obtain ⟨-, front, -, back, inside⟩ := words
      have compared : (Node.eq (expressionNode left) (expressionNode right)).Single :=
        Node.single_of_plain (by simp [Node.kind])
          (by simp [Node.parts, single_expressionNode front, single_expressionNode back])
      have legible : (Head.plain .branch).Legible := by simp [Head.Legible]
      have shaped := Node.shaped_of_body legible (.inr rfl) compared (body.shaped_node inside)
      simpa [Node.Shaped, Statement.node, Node.flat] using shaped
  | stop =>
      have single : Node.stop.Single := Node.single_of_plain (by simp [Node.kind]) nofun
      exact single.shaped
  | call name args =>
      obtain ⟨named, listed⟩ := List.forall_mem_cons.mp words
      apply Node.Single.shaped
      refine Node.single_of_operands (by simp [Statement.node, Node.kind]) named ?_
      intro operand member
      obtain ⟨arg, inside, rfl⟩ := List.mem_map.mp member
      apply single_expressionNode
      intro token found
      exact listed token (List.mem_flatMap.mpr ⟨arg, inside, found⟩)
  | block body =>
      have parts := List.forall_mem_append.mp (List.forall_mem_cons.mp words).2
      exact body.shaped_node parts.1

theorem Statements.shaped_node (statements : Statements)
    (words : ∀ token ∈ statements.tokens, token.HasWord) : statements.node.Shaped := by
  cases statements with
  | last statement => exact statement.shaped_node words
  | next statement rest =>
      have parts := List.forall_mem_append.mp words
      rw [Statements.node, Node.Shaped, Node.flat, List.forall_mem_append]
      exact ⟨statement.shaped_node parts.1, rest.shaped_node parts.2⟩

end

end Derivation

namespace Node

/-- The rows of a node from the left margin on. -/
def rows (node : Node) : List Flat.Row :=
  node.flat.flatMap (Flat.rows 0)

end Node

/-- A loop runs a block twice. -/
def Derivation.Statement.twice (body : Derivation.Statements) : Derivation.Statement :=
  .loop (.single (.single (.literal ['2']))) (.block body)

end Turtle
