import Turtle.Proofs.Node
import Turtle.Proofs.Source.Derived
import Turtle.Proofs.Source.RoundTrip

/-
This file decides which programs have a text: those whose literals are all held by doubles, as long
as the frames are enough.
-/

namespace Turtle

open Turtle.Derivation

/-- Something is written when its numbers are exact and the frames are at least as many as it
needs. -/
def Needs (written : Nat → Prop) (exact : Prop) (need : Nat) : Prop :=
  ∀ frames, written frames ↔ exact ∧ need ≤ frames

namespace Needs

variable {written other outer : Nat → Prop} {exact inexact : Prop} {need more : Nat}

theorem free : Needs (fun _ => exact) exact 0 :=
  fun _ => (and_iff_left (Nat.zero_le _)).symm

theorem congr (needs : Needs written exact need) (same : inexact ↔ exact) :
    Needs written inexact need :=
  fun frames => (needs frames).trans (and_congr_left' same.symm)

theorem both (first : Needs written exact need) (second : Needs other inexact more) :
    Needs (fun frames => written frames ∧ other frames) (exact ∧ inexact) (max need more) := by
  intro frames
  rw [Nat.max_le, and_and_and_comm]
  exact and_congr (first frames) (second frames)

/-- What is written around something takes one frame more. -/
theorem around (needs : Needs written exact need) (none : ¬ outer 0)
    (step : ∀ frames, outer (frames + 1) ↔ written frames) : Needs outer exact (need + 1) := by
  intro frames
  cases frames with
  | zero => exact iff_of_false none fun both => absurd both.2 (by omega)
  | succ frames => rw [step, needs frames, Nat.add_le_add_iff_right]

end Needs

namespace Node

/-- Every literal of the tree is held by a double. -/
def Exact (node : Node) : Prop :=
  ∀ number : Nat, .const (.whole number) ∈ node.occurrences → Binary.Exact number

theorem exact_literal {number : Nat} :
    (Node.const (.whole number)).Exact ↔ Binary.Exact number := by
  rw [Exact, occurrences_eq]
  simp [parts]

/-- The literals of a node that is no literal are those of its parts. -/
theorem exact_iff_parts {node : Node} (compound : ∀ value, node ≠ .const value) :
    node.Exact ↔ ∀ part ∈ node.parts, part.Exact := by
  have literals : ∀ number : Nat, .const (.whole number) ∈ node.occurrences ↔
      ∃ part ∈ node.parts, .const (.whole number) ∈ part.occurrences := by
    intro number
    rw [occurrences_eq, List.mem_cons, List.mem_flatMap, or_iff_right (compound _).symm]
  simp only [Exact, literals]
  constructor
  · intro exact part member number inside
    exact exact number ⟨part, member, inside⟩
  · rintro exact number ⟨part, member, inside⟩
    exact exact part member number inside

/-- The frames that the text of a statement takes: one for each level, and one more where a
statement may need brackets and in front of the arguments of a call. -/
def sourceFrames : Node → Nat
  | .forward operand | .rotate operand | .setHeading operand => operand.height + 1
  | .seq first second => max (sourceFrames first + 1) (sourceFrames second) + 1
  | .loop times body => max times.height (sourceFrames body + 1) + 1
  | .define _ _ body => sourceFrames body + 1
  | .call _ args => heightAll args + 2
  | .branch (.eq left right) body =>
      max (max left.height right.height) (sourceFrames body + 1) + 1
  | _ => 1

/-- The expression has a text within the frames. -/
def ExpressionWritten (node : Node) (frames : Nat) : Prop :=
  ∃ text, node.expressionSource frames = .ok text

/-- The statement has a text within the frames. -/
def Written (node : Node) (frames : Nat) : Prop :=
  ∃ text, node.source frames = .ok text

/-- The node has a text in the place of one statement. -/
def SingleWritten (node : Node) (frames : Nat) : Prop :=
  ∃ text, node.singleSource frames = .ok text

theorem not_expressionWritten_zero (node : Node) : ¬ node.ExpressionWritten 0 := by
  simp [ExpressionWritten, expressionSource]

theorem not_written_zero (node : Node) : ¬ node.Written 0 := by
  simp [Written, source]

section

variable {left right body : Node} {args : List Node} {exact inexact : Prop} {need more : Nat}

theorem sub_needs (plain : right.isDifference = false)
    (first : Needs left.ExpressionWritten exact need)
    (second : Needs right.ExpressionWritten inexact more) :
    Needs (sub left right).ExpressionWritten (exact ∧ inexact) (max need more + 1) := by
  refine (first.both second).around (not_expressionWritten_zero _) fun frames => ?_
  rw [ExpressionWritten, expressionSource, if_neg (by simp [plain])]
  exact Fallible.exists_map₂_iff

theorem div_needs (plain : left.isDifference = false) (lone : right.isOperation = false)
    (first : Needs left.ExpressionWritten exact need)
    (second : Needs right.ExpressionWritten inexact more) :
    Needs (div left right).ExpressionWritten (exact ∧ inexact) (max need more + 1) := by
  refine (first.both second).around (not_expressionWritten_zero _) fun frames => ?_
  rw [ExpressionWritten, expressionSource, if_neg (by simp [plain, lone])]
  exact Fallible.exists_map₂_iff

theorem single_needs (needs : Needs body.Written exact need) :
    Needs body.SingleWritten exact (need + 1) := by
  refine needs.around (by simp [SingleWritten, singleSource]) fun frames => ?_
  simp only [SingleWritten, singleSource, Fallible.map_eq_ok_iff, Written]
  exact ⟨fun ⟨_, inner, found, _⟩ => ⟨inner, found⟩, fun ⟨inner, found⟩ => ⟨_, inner, found, rfl⟩⟩

theorem arguments_needs
    (each : ∀ arg ∈ args, Needs arg.ExpressionWritten arg.Exact arg.height) :
    Needs (fun frames => ∃ texts, args.mapM (expressionSource · frames) = .ok texts)
      (∀ arg ∈ args, arg.Exact) (heightAll args) := by
  intro frames
  rw [heightAll_le_iff, ← forall₂_and]
  exact Fallible.exists_mapM_iff.trans (forall₂_congr fun arg member => each arg member frames)

end

end Node

namespace Derivation

theorem Atom.isOperation_node (atom : Atom) : atom.node.isOperation = false := by
  cases atom <;> rfl

theorem Atom.needs (atom : Atom) :
    Needs atom.node.ExpressionWritten atom.node.Exact atom.node.height := by
  cases atom with
  | literal digits =>
      refine Needs.free.around (Node.not_expressionWritten_zero _) fun frames => ?_
      exact Node.constantSource_whole_iff.trans Node.exact_literal.symm
  | reference name =>
      refine Needs.free.around (Node.not_expressionWritten_zero _) fun frames => ?_
      rw [Atom.node, Node.exact_iff_parts (by simp)]
      simp [Node.ExpressionWritten, Node.expressionSource, Node.parts]

theorem term_needs (term : Term) :
    (termNode term).isDifference = false ∧
      Needs (termNode term).ExpressionWritten (termNode term).Exact (termNode term).height := by
  refine Chain.node_induction
    (fun node => node.isDifference = false ∧
      Needs node.ExpressionWritten node.Exact node.height) term ?_ ?_
  · exact ⟨by cases term.first <;> rfl, term.first.needs⟩
  · rintro left ⟨plain, needs⟩ atom -
    refine ⟨rfl, ?_⟩
    rw [Node.height, Nat.add_comm]
    refine (Node.div_needs plain atom.isOperation_node needs atom.needs).congr ?_
    rw [Node.exact_iff_parts (by simp)]
    simp [Node.parts]

theorem expression_needs (expression : Expression) :
    Needs (expressionNode expression).ExpressionWritten (expressionNode expression).Exact
      (expressionNode expression).height := by
  refine Chain.node_induction
    (fun node => Needs node.ExpressionWritten node.Exact node.height) expression ?_ ?_
  · exact (term_needs expression.first).2
  · intro left needs term _
    rw [Node.height, Nat.add_comm]
    refine (Node.sub_needs (term_needs term).1 needs (term_needs term).2).congr ?_
    rw [Node.exact_iff_parts (by simp)]
    simp [Node.parts]

mutual

/-- The tree of a statement has a text exactly when its literals are held by doubles and the frames
are enough. -/
theorem Statement.needs (statement : Statement) :
    Needs statement.node.Written statement.node.Exact statement.node.sourceFrames := by
  cases statement with
  | command command operand =>
      rw [Statement.node]
      cases command <;>
      · refine ((expression_needs operand).around (Node.not_written_zero _) fun frames => ?_).congr
          ?_
        · rw [Command.build, Node.Written, Node.source]
          exact Fallible.exists_map_iff
        · rw [Command.build, Node.exact_iff_parts (by simp)]
          simp [Node.parts]
  | loop times body =>
      have parts := (expression_needs times).both (Node.single_needs body.needs)
      refine (parts.around (Node.not_written_zero _) fun frames => ?_).congr ?_
      · rw [Statement.node, Node.Written, Node.source_loop]
        exact Fallible.exists_map₂_iff
      · rw [Statement.node, Node.exact_iff_parts (by simp)]
        simp [Node.parts]
  | define name params body =>
      refine (body.needs.around (Node.not_written_zero _) fun frames => ?_).congr ?_
      · rw [Statement.node, Node.Written, Node.source]
        exact Fallible.exists_map_iff
      · rw [Statement.node, Node.exact_iff_parts (by simp)]
        simp [Node.parts]
  | branch left right body =>
      have parts := ((expression_needs left).both (expression_needs right)).both
        (Node.single_needs body.needs)
      refine (parts.around (Node.not_written_zero _) fun frames => ?_).congr ?_
      · rw [Statement.node, Node.Written, Node.source_branch, and_assoc]
        exact Fallible.exists_map₃_iff
      · have condition : (Node.eq (expressionNode left) (expressionNode right)).Exact ↔
            (expressionNode left).Exact ∧ (expressionNode right).Exact := by
          rw [Node.exact_iff_parts (by simp)]
          simp [Node.parts]
        rw [Statement.node, Node.exact_iff_parts (by simp)]
        simp [Node.parts, condition]
  | stop =>
      refine Needs.free.around (Node.not_written_zero _) fun frames => ?_
      rw [Statement.node, Node.exact_iff_parts (by simp)]
      simp [Node.Written, Node.source, Node.parts]
  | call name args =>
      let node : Node := .call name.word (args.map expressionNode)
      have each : ∀ arg ∈ node.parts, Needs arg.ExpressionWritten arg.Exact arg.height := by
        intro arg member
        obtain ⟨expression, -, rfl⟩ := List.mem_map.mp member
        exact expression_needs expression
      have behind : Needs (fun frames => node.Written (frames + 1)) (∀ arg ∈ node.parts, arg.Exact)
          (Node.heightAll node.parts + 1) := by
        refine (Node.arguments_needs each).around (by simp [node, Node.Written, Node.source]) ?_
        intro frames
        rw [Node.Written, Node.source]
        exact Fallible.exists_map_iff
      refine (behind.around (Node.not_written_zero _) fun _ => Iff.rfl).congr ?_
      exact Node.exact_iff_parts (by simp [Statement.node])
  | block body => exact body.needs

theorem Statements.needs (statements : Statements) :
    Needs statements.node.Written statements.node.Exact statements.node.sourceFrames := by
  cases statements with
  | last statement => exact statement.needs
  | next statement rest =>
      have parts := (Node.single_needs statement.needs).both rest.needs
      refine (parts.around (Node.not_written_zero _) fun frames => ?_).congr ?_
      · rw [Statements.node, Node.Written, Node.source_seq]
        exact Fallible.exists_map₂_iff
      · rw [Statements.node, Node.exact_iff_parts (by simp)]
        simp [Node.parts]

end

end Derivation

/-- Every program that is read has a derivation within the levels. -/
theorem Program.spells_of_read {levels : Nat} {text filename : String} {node : Node}
    (found : Program.read levels text filename = .ok node) :
    ∃ statements : Statements, Token.Spells text statements.tokens ∧
      statements.nesting ≤ levels ∧ statements.node = node := by
  rw [Program.read, Program.readChars] at found
  split at found
  · rename_i tree rest matched
    cases found
    exact Rule.spells_of_program matched
  · cases found
  · cases found

/-- A program has a text exactly when all its literals are held by doubles and the frames are enough
for it, and reading that text gives back the same tree. -/
theorem read_source_iff_exact (levels frames : Nat) (text filename : String) (node : Node)
    (found : Program.read levels text filename = .ok node) :
    ((∃ source, node.source frames = .ok source) ↔
      (∀ number : Nat, Node.const (.whole number) ∈ node.occurrences → Binary.Exact number) ∧
        node.sourceFrames ≤ frames) ∧
    ∀ source, node.source frames = .ok source →
      ∃ again, Program.read levels source filename = .ok again ∧ again.same node = true := by
  obtain ⟨statements, spells, within, rfl⟩ := Program.spells_of_read found
  refine ⟨statements.needs frames, ?_⟩
  intro source written
  have typed := statements.isStatement_node (Token.tokenize_hasWord spells.1)
  have nested := statements.nesting_node_le.trans within
  exact Program.read_of_spells (Node.source_spells typed written).1 nested filename

/-- Every literal that the limit of digits admits is read. -/
theorem Program.read_forward (levels number : Nat)
    (short : (Nat.toDigits 10 number).length ≤ maxDigits) (filename : String) :
    Program.read (levels + 1) ("fd " ++ toString number) filename =
      .ok (.forward (.const (.whole number))) := by
  have spells : Token.Spells ("fd " ++ toString number) (Statements.tokens
      (.last (.command .forward (.single (.single (.literal (Nat.toDigits 10 number))))))) :=
    (Node.spells_toString short).keyword "fd" (by decide) rfl
  have within : Statements.nesting (.last (.command .forward (.single (.single
      (.literal (Nat.toDigits 10 number)))))) ≤ levels + 1 := by
    simp [Statements.nesting, Statement.nesting]
  rw [Program.read_of_derivation spells within]
  have node : (termNode (.single (.literal (Nat.toDigits 10 number)))) =
      .const (.whole number) := by
    rw [termNode, Chain.node_single, Atom.node, Node.digitsValue_toDigits, Rule.literal]
    rfl
  rw [Statements.node, Statement.node, expressionNode, Chain.node_single, node, Command.build]

theorem read_source_iff_exact_power :
    Program.read (levelsWithin baseFrames) "fd 9007199254740992" Program.unnamed =
        .ok (.forward (.const (.whole 9007199254740992))) ∧
      ∃ again,
        Program.read (levelsWithin baseFrames) "fd 9007199254740992" Program.unnamed = .ok again ∧
        again.same (.forward (.const (.whole 9007199254740992))) = true := by
  have text : "fd 9007199254740992" = "fd " ++ toString 9007199254740992 := by decide +kernel
  have found : Program.read (levelsWithin baseFrames) "fd 9007199254740992" Program.unnamed =
      .ok (.forward (.const (.whole 9007199254740992))) := by
    rw [text]
    exact Program.read_forward 141 9007199254740992 (by decide +kernel) Program.unnamed
  exact ⟨found, (read_source_iff_exact _ baseFrames _ _ _ found).2 _ (by rfl)⟩

/-- A literal between two doubles is read, but its tree has no text. -/
theorem source_missing_of_literal :
    ∃ node, Program.read (levelsWithin baseFrames) "fd 9007199254740993" Program.unnamed =
        .ok node ∧
      node.source baseFrames = .error (.constant (.whole 9007199254740993)) := by
  have text : "fd 9007199254740993" = "fd " ++ toString 9007199254740993 := by decide +kernel
  refine ⟨.forward (.const (.whole 9007199254740993)), ?_, by rfl⟩
  rw [text]
  exact Program.read_forward 141 9007199254740993 (by decide +kernel) Program.unnamed

end Turtle
