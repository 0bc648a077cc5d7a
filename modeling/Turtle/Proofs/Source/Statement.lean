import Turtle.Proofs.Source.Expression

/-
This file shows that the text of a statement tree spells a derivation of the same tree.
-/

namespace Turtle

namespace Node

def isProcedureName (name : String) : Bool :=
  Text.isWord name && !reservedWords.contains name

def isComparison : Node → Bool
  | .eq left right => left.isExpression && right.isExpression
  | _ => false

theorem isComparison_eq {condition : Node} (typed : condition.isComparison = true) :
    ∃ left right, condition = .eq left right ∧ left.isExpression = true ∧
      right.isExpression = true := by
  cases condition with
  | eq left right =>
      rw [isComparison, Bool.and_eq_true] at typed
      exact ⟨left, right, rfl, typed⟩
  | _ => cases typed

/-- Statements hold expressions, comparisons and statements in their places, their parameters are
words and their procedures have names that are not reserved. -/
def isStatement : Node → Bool
  | .forward operand | .rotate operand | .setHeading operand => operand.isExpression
  | .seq first second => first.isStatement && second.isStatement
  | .loop times body => times.isExpression && body.isStatement
  | .define name params body =>
      isProcedureName name && params.all Text.isWord && body.isStatement
  | .call name args => isProcedureName name && args.all isExpression
  | .branch condition body => condition.isComparison && body.isStatement
  | .stop => true
  | _ => false

/-- A sequence in the place of one statement takes one level for its brackets. -/
def bracketLevel : Node → Nat
  | .seq _ _ => 1
  | _ => 0

/-- A statement nests one level deeper than the statements in it, brackets included. -/
def nesting : Node → Nat
  | .seq first second => max (first.nesting + first.bracketLevel) second.nesting
  | .loop _ body | .branch _ body => body.nesting + body.bracketLevel + 1
  | .define _ _ body => body.nesting + 1
  | _ => 1

end Node

open Token Turtle.Derivation

namespace Token.Spells

variable {text more : String} {tokens others : List Token}

theorem keyword {spaced : String} (word : String) (isWord : Text.isWord word = true)
    (blank : spaced = word ++ " ") (spells : Spells text tokens) :
    Spells (spaced ++ text) (.name word :: tokens) := by
  rw [blank]
  exact (spells_word isWord).blank spells

/-- Parameters follow a text as references. -/
theorem params {params : List String} (words : params.all Text.isWord = true)
    (spells : Spells text tokens) :
    Spells (text ++ Node.paramsText params) (tokens ++ params.map .reference) := by
  induction params generalizing text tokens with
  | nil => simpa [Node.paramsText] using spells
  | cons param rest inductionHypothesis =>
      rw [List.all_cons, Bool.and_eq_true] at words
      have longer := inductionHypothesis words.2 (spells.blank (spells_reference words.1))
      have joined : text ++ Node.paramsText (param :: rest) =
          text ++ " " ++ (":" ++ param) ++ Node.paramsText rest := by
        simp only [Node.paramsText, List.map_cons, String.join_cons, String.append_assoc,
          show " :" = " " ++ ":" from rfl]
      rw [joined]
      simpa using longer

/-- Further texts follow a text behind blanks. -/
theorem intercalate {texts : List String} {lists : List (List Token)}
    (spells : Spells text tokens) (spell : List.Forall₂ Spells texts lists) :
    Spells (String.intercalate " " (text :: texts)) (tokens ++ lists.flatten) := by
  induction spell generalizing text tokens with
  | nil => simpa using spells
  | cons first _ inductionHypothesis =>
      rw [String.intercalate_cons_cons, List.flatten_cons]
      exact spells.blank (inductionHypothesis first)

end Token.Spells

namespace Node

/-- The text spells one statement with the same tree within the depth. -/
def SpellsStatement (node : Node) (text : String) (depth : Nat) : Prop :=
  ∃ statement : Statement,
    Spells text statement.tokens ∧ statement.nesting ≤ depth ∧ statement.node.same node = true

/-- The text spells a run of statements with the same tree within the depth. -/
def SpellsStatements (node : Node) (text : String) (depth : Nat) : Prop :=
  ∃ statements : Statements,
    Spells text statements.tokens ∧ statements.nesting ≤ depth ∧ statements.node.same node = true

section

variable {node body condition left right times : Node} {text inner : String}
  {frames depth : Nat}

theorem SpellsStatement.statements (spells : SpellsStatement node text depth) :
    SpellsStatements node text depth := by
  obtain ⟨statement, spells, within, same⟩ := spells
  exact ⟨.last statement, spells, within, same⟩

theorem SpellsStatements.block (spells : SpellsStatements node text depth) :
    SpellsStatement node ("[" ++ text ++ "]") (depth + 1) := by
  obtain ⟨statements, spells, within, same⟩ := spells
  exact ⟨.block statements, spells.brackets, Nat.succ_le_succ within, same⟩

theorem SpellsStatement.next {rest : Node} {tail : String} {deep : Nat}
    (head : SpellsStatement node text depth) (spells : SpellsStatements rest tail deep) :
    SpellsStatements (.seq node rest) (text ++ " " ++ tail) (max depth deep) := by
  obtain ⟨statement, front, here, sameFirst⟩ := head
  obtain ⟨statements, back, there, sameRest⟩ := spells
  exact ⟨.next statement statements, front.blank back, by simp only [Statements.nesting]; omega,
    by simpa [Statements.node] using ⟨sameFirst, sameRest⟩⟩

theorem command_spells (command : Command) (typed : node.isExpression = true)
    (written : node.expressionSource frames = .ok text) :
    SpellsStatement (command.build node) (command.word ++ " " ++ text) 1 := by
  obtain ⟨operand, spells, sameOperand⟩ := expression_spells typed written
  refine ⟨.command command operand, ?_, Nat.le_refl 1, ?_⟩
  · exact spells.keyword command.word (by cases command <;> decide) rfl
  · cases command <;> simpa [Statement.node, Command.build] using sameOperand

theorem loop_spells (typed : times.isExpression = true)
    (written : times.expressionSource frames = .ok text)
    (spells : SpellsStatement body inner depth) :
    SpellsStatement (.loop times body) ("repeat " ++ text ++ " " ++ inner) (depth + 1) := by
  obtain ⟨count, front, sameTimes⟩ := expression_spells typed written
  obtain ⟨statement, back, within, sameBody⟩ := spells
  refine ⟨.loop count statement, ?_, Nat.succ_le_succ within, ?_⟩
  · exact (front.keyword "repeat" (by decide) rfl).blank back
  · simpa [Statement.node] using ⟨sameTimes, sameBody⟩

theorem branch_spells {first second : String} (typedLeft : left.isExpression = true)
    (typedRight : right.isExpression = true)
    (writtenLeft : left.expressionSource frames = .ok first)
    (writtenRight : right.expressionSource frames = .ok second)
    (spells : SpellsStatement body inner depth) :
    SpellsStatement (.branch (.eq left right) body)
      ("if " ++ first ++ " = " ++ second ++ " " ++ inner) (depth + 1) := by
  obtain ⟨leftExpression, front, sameLeft⟩ := expression_spells typedLeft writtenLeft
  obtain ⟨rightExpression, back, sameRight⟩ := expression_spells typedRight writtenRight
  obtain ⟨statement, last, within, sameBody⟩ := spells
  refine ⟨.branch leftExpression rightExpression statement, ?_, Nat.succ_le_succ within, ?_⟩
  · have condition := (front.keyword "if" (by decide) rfl).operator
      '=' rfl (by decide) back
    simpa [Statement.tokens] using condition.blank last
  · simpa [Statement.node] using ⟨⟨sameLeft, sameRight⟩, sameBody⟩

theorem define_spells {name : String} {params : List String}
    (named : isProcedureName name = true) (words : params.all Text.isWord = true)
    (spells : SpellsStatements body inner depth) :
    SpellsStatement (.define name params body)
      ("to " ++ name ++ paramsText params ++ " " ++ inner ++ " end") (depth + 1) := by
  simp only [isProcedureName, Bool.and_eq_true, Bool.not_eq_true', List.contains_eq_mem,
    decide_eq_false_iff_not] at named
  obtain ⟨statements, inside, within, sameBody⟩ := spells
  refine ⟨.define ⟨name, named.2⟩ params statements, ?_, Nat.succ_le_succ within, ?_⟩
  · have header := ((spells_word named.1).keyword "to" (by decide) rfl).params words
    have closed := (header.blank inside).blank (spells_word (by decide : Text.isWord "end" = true))
    simpa [Statement.tokens, String.append_assoc] using closed
  · simpa [Statement.node] using sameBody

theorem call_spells {name : String} {args : List Node} {texts : List String}
    (named : isProcedureName name = true) (typed : args.all isExpression = true)
    (written : args.mapM (expressionSource · frames) = .ok texts) :
    SpellsStatement (.call name args) (String.intercalate " " (name :: texts)) 1 := by
  simp only [isProcedureName, Bool.and_eq_true, Bool.not_eq_true', List.contains_eq_mem,
    decide_eq_false_iff_not] at named
  obtain ⟨expressions, spell, sameArgs⟩ := expressions_spell typed written
  refine ⟨.call ⟨name, named.2⟩ expressions, ?_, Nat.le_refl 1, ?_⟩
  · simpa [Statement.tokens, List.flatMap_def] using (spells_word named.1).intercalate spell
  · simpa [Statement.node] using sameArgs

end

theorem bracketed_of_level {node : Node} (single : node.bracketLevel = 0) (text : String) :
    node.bracketed text = text := by
  cases node with
  | seq first second => cases single
  | _ => rfl

/-- A statement that is no sequence spells itself in both places. -/
theorem spells_single {node : Node} {text : String} {depth : Nat}
    (single : node.bracketLevel = 0) (spells : SpellsStatement node text depth) :
    SpellsStatements node text depth ∧
      SpellsStatement node (node.bracketed text) (depth + node.bracketLevel) := by
  rw [bracketed_of_level single, single]
  exact ⟨spells.statements, spells⟩

/-- The text of a node in the place of one statement. -/
def singleSource (node : Node) : Nat → Except SourceError String
  | 0 => .error (.outOfFrames node)
  | frames + 1 => (node.source frames).map node.bracketed

theorem source_seq {first second : Node} {frames : Nat} :
    (Node.seq first second).source (frames + 1) = do
      let head ← first.singleSource frames
      let tail ← second.source frames
      return head ++ " " ++ tail := by
  cases frames <;> rfl

theorem source_loop {times body : Node} {frames : Nat} :
    (Node.loop times body).source (frames + 1) = do
      let count ← times.expressionSource frames
      let inner ← body.singleSource frames
      return "repeat " ++ count ++ " " ++ inner := by
  cases frames <;> rfl

theorem source_branch {left right body : Node} {frames : Nat} :
    (Node.branch (.eq left right) body).source (frames + 1) = do
      let first ← left.expressionSource frames
      let second ← right.expressionSource frames
      let inner ← body.singleSource frames
      return "if " ++ first ++ " = " ++ second ++ " " ++ inner := by
  cases frames <;> rfl

theorem exists_frame_of_source {node : Node} {frames : Nat} {text : String}
    (written : node.source frames = .ok text) : ∃ fewer, frames = fewer + 1 := by
  cases frames with
  | zero =>
      rw [source] at written
      cases written
  | succ fewer => exact ⟨fewer, rfl⟩

theorem singleSource_ok {node : Node} {frames : Nat} {text : String}
    (written : node.singleSource frames = .ok text) :
    ∃ fewer inner, node.source (fewer + 1) = .ok inner ∧ text = node.bracketed inner := by
  obtain _ | frames := frames
  · cases written
  obtain ⟨inner, found, rfl⟩ := Fallible.map_eq_ok_iff.mp written
  obtain ⟨fewer, rfl⟩ := exists_frame_of_source found
  exact ⟨fewer, inner, found, rfl⟩

/-- The text of a statement tree spells a run of statements with the same tree, and in the place
of one statement it spells one. -/
theorem source_spells {node : Node} {frames : Nat} {text : String}
    (typed : node.isStatement = true) (written : node.source frames = .ok text) :
    SpellsStatements node text node.nesting ∧
      SpellsStatement node (node.bracketed text) (node.nesting + node.bracketLevel) := by
  obtain ⟨frames, rfl⟩ := exists_frame_of_source written
  fun_induction isStatement node generalizing text frames with
  | case1 operand =>
      simp only [source] at written
      obtain ⟨inner, found, same⟩ := Fallible.bind_eq_ok_iff.mp written
      cases same
      exact spells_single rfl (command_spells .forward typed found)
  | case2 operand =>
      simp only [source] at written
      obtain ⟨inner, found, same⟩ := Fallible.bind_eq_ok_iff.mp written
      cases same
      exact spells_single rfl (command_spells .rotate typed found)
  | case3 operand =>
      simp only [source] at written
      obtain ⟨inner, found, same⟩ := Fallible.bind_eq_ok_iff.mp written
      cases same
      exact spells_single rfl (command_spells .setHeading typed found)
  | case4 first second firstHypothesis secondHypothesis =>
      rw [Bool.and_eq_true] at typed
      rw [source_seq] at written
      obtain ⟨head, front, more⟩ := Fallible.bind_eq_ok_iff.mp written
      obtain ⟨tail, back, same⟩ := Fallible.bind_eq_ok_iff.mp more
      cases same
      obtain ⟨fewer, inner, found, rfl⟩ := singleSource_ok front
      obtain ⟨frames, rfl⟩ := exists_frame_of_source back
      have run := (firstHypothesis typed.1 fewer found).2.next
        (secondHypothesis typed.2 frames back).1
      exact ⟨run, run.block⟩
  | case5 times body bodyHypothesis =>
      rw [Bool.and_eq_true] at typed
      rw [source_loop] at written
      obtain ⟨count, front, more⟩ := Fallible.bind_eq_ok_iff.mp written
      obtain ⟨head, back, same⟩ := Fallible.bind_eq_ok_iff.mp more
      cases same
      obtain ⟨fewer, inner, found, rfl⟩ := singleSource_ok back
      exact spells_single rfl (loop_spells typed.1 front (bodyHypothesis typed.2 fewer found).2)
  | case6 name params body bodyHypothesis =>
      simp only [Bool.and_eq_true] at typed
      simp only [source] at written
      obtain ⟨inner, found, same⟩ := Fallible.bind_eq_ok_iff.mp written
      cases same
      obtain ⟨frames, rfl⟩ := exists_frame_of_source found
      exact spells_single rfl
        (define_spells typed.1.1 typed.1.2 (bodyHypothesis typed.2 frames found).1)
  | case7 name args =>
      rw [Bool.and_eq_true] at typed
      obtain _ | frames := frames
      · cases written
      simp only [source] at written
      obtain ⟨texts, found, same⟩ := Fallible.bind_eq_ok_iff.mp written
      cases same
      exact spells_single rfl (call_spells typed.1 typed.2 found)
  | case8 condition body bodyHypothesis =>
      rw [Bool.and_eq_true] at typed
      obtain ⟨left, right, rfl, typedLeft, typedRight⟩ := isComparison_eq typed.1
      rw [source_branch] at written
      obtain ⟨first, front, more⟩ := Fallible.bind_eq_ok_iff.mp written
      obtain ⟨second, middle, more⟩ := Fallible.bind_eq_ok_iff.mp more
      obtain ⟨head, back, same⟩ := Fallible.bind_eq_ok_iff.mp more
      cases same
      obtain ⟨fewer, inner, found, rfl⟩ := singleSource_ok back
      exact spells_single rfl
        (branch_spells typedLeft typedRight front middle (bodyHypothesis typed.2 fewer found).2)
  | case9 =>
      rw [source] at written
      cases written
      exact spells_single rfl ⟨.stop, spells_word (by decide), Nat.le_refl 1, same_stop⟩
  | case10 => cases typed

end Node

end Turtle
