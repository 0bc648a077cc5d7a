import Turtle.Proofs.Grammar.Phrase

namespace Turtle

open Token Turtle.Derivation

namespace Token

def startsAtom : Token → Bool
  | .literal _ | .reference _ => true
  | .name _ | .symbol _ => false

/-- An operator behind an expression carries the expression on. -/
def extendsExpression (token : Token) : Bool :=
  token == .symbol '/' || token == .symbol '-'

end Token

namespace Rule

open Turtle.Parser

theorem Complete.mono {Phrase Value : Type} {rule : Rule Value} {tokens : Phrase → List Token}
    {value : Phrase → Value} {weaker stronger : Token → Bool}
    (complete : Complete rule tokens value weaker)
    (implied : ∀ token, weaker token = true → stronger token = true) :
    Complete rule tokens value stronger := by
  intro phrase text rest reads avoids
  exact complete reads (avoids.mono implied)

theorem guard_name_apply (test : String → Bool) (text : List Char) :
    name.guard test (.ofList text) = match scan text with
      | some (.name word, rest) => if test word then .matched word (.ofList rest) else .unmatched
      | _ => .unmatched := by
  unfold Parser.guard refine
  rw [name_apply]
  rcases scan text with _ | ⟨token, rest⟩
  · rfl
  · cases token with
    | name word => by_cases passes : test word <;> simp [passes]
    | literal digits => rfl
    | reference word => rfl
    | symbol char => rfl

theorem guard_name_matched_iff {test : String → Bool} {text : List Char} {rest : Cursor}
    {word : String} :
    name.guard test (.ofList text) = .matched word rest ↔
      test word = true ∧ scan text = some (.name word, rest.chars) := by
  rw [guard_name_apply]
  constructor
  · intro matched
    rcases scanned : scan text with _ | ⟨token, behind⟩ <;> rw [scanned] at matched
    · cases matched
    · cases token with
      | name found =>
          by_cases passes : test found
          · simp only [passes, if_true, Reply.matched.injEq] at matched
            obtain ⟨rfl, rfl⟩ := matched
            exact ⟨passes, rfl⟩
          · simp [passes] at matched
      | literal digits => cases matched
      | reference found => cases matched
      | symbol char => cases matched
  · rintro ⟨passes, scanned⟩
    simp [scanned, passes, Cursor.ofList_chars]

/-- A name that the test does not admit, or any other token, does not match. -/
theorem guard_name_unmatched {test : String → Bool} {select : Token → Bool} {text : List Char}
    (avoids : Avoids select text)
    (selected : ∀ word, test word = true → select (.name word) = true) :
    name.guard test (.ofList text) = .unmatched := by
  rw [guard_name_apply]
  rcases scanned : scan text with _ | ⟨token, behind⟩
  · rfl
  · cases token with
    | name word =>
        by_cases passes : test word
        · have refused := avoids _ _ scanned
          rw [selected word passes] at refused
          cases refused
        · simp [passes]
    | literal digits => rfl
    | reference word => rfl
    | symbol char => rfl

theorem keyword_matched_iff {word found : String} {text : List Char} {rest : Cursor} :
    keyword word (.ofList text) = .matched found rest ↔
      found = word ∧ scan text = some (.name word, rest.chars) := by
  unfold keyword
  rw [guard_name_matched_iff, beq_iff_eq]
  constructor <;> rintro ⟨rfl, scanned⟩ <;> exact ⟨rfl, scanned⟩

theorem keyword_of_scan {word : String} {text rest : List Char}
    (scanned : scan text = some (.name word, rest)) :
    keyword word (.ofList text) = .matched word (.ofList rest) :=
  keyword_matched_iff.mpr ⟨rfl, scanned⟩

theorem unreserved_matched_iff {word : String} {text : List Char} {rest : Cursor} :
    unreserved (.ofList text) = .matched word rest ↔
      word ∉ reservedWords ∧ scan text = some (.name word, rest.chars) := by
  unfold unreserved
  rw [guard_name_matched_iff]
  simp

theorem unreserved_of_scan {name : ProcedureName} {text rest : List Char}
    (scanned : scan text = some (.name name.word, rest)) :
    unreserved (.ofList text) = .matched name.word (.ofList rest) :=
  unreserved_matched_iff.mpr ⟨name.unreserved, scanned⟩

/-- Variables are the phrases of their rule, and no token extends one. -/
theorem variableName_sound :
    Sound variableName (fun name : String => [.reference name]) id := by
  intro input rest found matched
  rw [← Cursor.ofList_chars input, variableName_apply] at matched
  rcases scanned : scan input.chars with _ | ⟨token, behind⟩ <;> rw [scanned] at matched
  · cases matched
  · cases token with
    | reference word =>
        cases matched
        exact ⟨_, .single scanned trivial, rfl⟩
    | literal digits => cases matched
    | name word => cases matched
    | symbol char => cases matched

theorem variableName_complete :
    Complete variableName (fun name : String => [.reference name]) id fun _ => false := by
  intro name text rest reads _
  obtain ⟨middle, scanned, more⟩ := reads.uncons
  cases more
  rw [variableName_apply, scanned]
  rfl

theorem variableName_unmatched {text : List Char} (avoids : Avoids startsAtom text) :
    variableName (.ofList text) = .unmatched := by
  rw [variableName_apply]
  rcases scanned : scan text with _ | ⟨token, behind⟩
  · rfl
  · cases token with
    | reference word => cases avoids _ _ scanned
    | literal digits => rfl
    | name word => rfl
    | symbol char => rfl

theorem atom_apply (text : List Char) :
    atom (.ofList text) = match scan text with
      | some (.literal digits, rest) =>
          if maxDigits < digits.length then .aborted (.literalTooLong digits.length)
          else .matched (literal (digitsValue digits)) (.ofList rest)
      | some (.reference word, rest) => .matched (.var word) (.ofList rest)
      | _ => .unmatched := by
  simp only [atom, choice, Parser.map_apply, number_apply, variableName_apply]
  rcases scan text with _ | ⟨token, rest⟩
  · rfl
  · cases token with
    | literal digits => by_cases long : maxDigits < digits.length <;> simp [long, Reply.map]
    | name word => rfl
    | reference word => rfl
    | symbol char => rfl

theorem atom_sound : Sound atom Atom.tokens Atom.node := by
  intro input rest found matched
  rw [← Cursor.ofList_chars input, atom_apply] at matched
  rcases scanned : scan input.chars with _ | ⟨token, behind⟩ <;> rw [scanned] at matched
  · cases matched
  · cases token with
    | literal digits =>
        by_cases long : maxDigits < digits.length
        · simp [long] at matched
        · simp only [long, if_false, Reply.matched.injEq] at matched
          obtain ⟨rfl, rfl⟩ := matched
          exact ⟨.literal digits, .single scanned (Nat.le_of_not_lt long), rfl⟩
    | reference word =>
        cases matched
        exact ⟨.reference word, .single scanned trivial, rfl⟩
    | name word => cases matched
    | symbol char => cases matched

theorem atom_complete : Complete atom Atom.tokens Atom.node fun _ => false := by
  intro phrase text rest reads _
  have fits := reads.fits
  rw [atom_apply]
  cases phrase with
  | literal digits =>
      obtain ⟨middle, scanned, more⟩ := reads.uncons
      cases more
      have short : digits.length ≤ maxDigits := fits (.literal digits) (by simp [Atom.tokens])
      simp only [scanned, Nat.not_lt.mpr short, if_false]
      rfl
  | reference name =>
      obtain ⟨middle, scanned, more⟩ := reads.uncons
      cases more
      rw [scanned]
      rfl

theorem atom_unmatched {text : List Char} (avoids : Avoids startsAtom text) :
    atom (.ofList text) = .unmatched := by
  rw [atom_apply]
  rcases scanned : scan text with _ | ⟨token, behind⟩
  · rfl
  · cases token with
    | literal digits => cases avoids _ _ scanned
    | reference word => cases avoids _ _ scanned
    | name word => rfl
    | symbol char => rfl

theorem term_sound : Sound term termTokens termNode :=
  binaryLeft_sound .div (by decide) atom_sound

theorem term_complete : Complete term termTokens termNode (· == .symbol '/') :=
  (binaryLeft_complete .div (by decide) rfl atom_complete).mono (by simp)

theorem expression_sound : Sound expression expressionTokens expressionNode :=
  binaryLeft_sound .sub (by decide) term_sound

theorem expression_complete :
    Complete expression expressionTokens expressionNode extendsExpression :=
  binaryLeft_complete .sub (by decide) (by decide) term_complete

theorem expression_unmatched {text : List Char} (avoids : Avoids startsAtom text) :
    expression (.ofList text) = .unmatched := by
  have term : term (.ofList text) = .unmatched := bind_of_unmatched _ (atom_unmatched avoids)
  exact bind_of_unmatched _ term

end Rule

namespace Derivation

theorem Atom.tokens_starts (atom : Atom) :
    ∃ token more, atom.tokens = token :: more ∧ token.startsAtom = true := by
  cases atom <;> exact ⟨_, _, rfl, rfl⟩

theorem Chain.tokens_starts {α : Type} {sign : Char} {itemTokens : α → List Token}
    (starts : ∀ item, ∃ token more, itemTokens item = token :: more ∧ token.startsAtom = true)
    (chain : Chain α) :
    ∃ token more, chain.tokens sign itemTokens = token :: more ∧ token.startsAtom = true := by
  obtain ⟨token, more, first, atom⟩ := starts chain.first
  exact ⟨token, more ++ _, by rw [Chain.tokens, first]; rfl, atom⟩

/-- Every expression starts with an atom. -/
theorem expressionTokens_starts (expression : Expression) :
    ∃ token more, expressionTokens expression = token :: more ∧ token.startsAtom = true :=
  Chain.tokens_starts (Chain.tokens_starts Atom.tokens_starts) expression

end Derivation

end Turtle
