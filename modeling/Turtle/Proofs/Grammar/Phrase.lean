import Turtle.Proofs.TokenRule
import Turtle.Proofs.Grammar.Derivation

/-
This file says when a rule recognizes the phrases of a kind and carries that over repetitions and
left folds.
-/

namespace Turtle

open Token Turtle.Derivation

/-- The next token of the text, if there is one, does not pass the test. -/
def Avoids (test : Token → Bool) (text : List Char) : Prop :=
  ∀ token rest, scan text = some (token, rest) → test token = false

theorem avoids_of_reads {test : Token → Bool} {text rest : List Char} {token : Token}
    {tokens : List Token} (reads : Reads text (token :: tokens) rest)
    (harmless : test token = false) : Avoids test text := by
  intro other behind found
  obtain ⟨middle, first, -⟩ := reads.uncons
  rw [found] at first
  cases first
  exact harmless

theorem Avoids.mono {weaker stronger : Token → Bool} {text : List Char}
    (avoids : Avoids stronger text)
    (implied : ∀ token, weaker token = true → stronger token = true) : Avoids weaker text := by
  intro token rest found
  have harmless := avoids token rest found
  by_contra bad
  rw [implied token (by simpa using bad)] at harmless
  cases harmless

theorem avoids_end (test : Token → Bool) : Avoids test [] := by
  intro token rest found
  cases found

namespace Rule

open Turtle.Parser

variable {Phrase Other Value : Type}

/-- Whatever the rule matches is a phrase, with the value of the phrase. -/
def Sound (rule : Rule Value) (tokens : Phrase → List Token) (value : Phrase → Value) : Prop :=
  ∀ ⦃input rest : Cursor⦄ ⦃found : Value⦄, rule input = .matched found rest →
    ∃ phrase, Reads input.chars (tokens phrase) rest.chars ∧ value phrase = found

/-- The rule matches every phrase that is not followed by a token that could extend it. -/
def Complete (rule : Rule Value) (tokens : Phrase → List Token) (value : Phrase → Value)
    (extending : Token → Bool) : Prop :=
  ∀ ⦃phrase : Phrase⦄ ⦃text rest : List Char⦄, Reads text (tokens phrase) rest →
    Avoids extending rest → rule (.ofList text) = .matched (value phrase) (.ofList rest)

theorem many_sound {rule : Rule Value} {tokens : Phrase → List Token} {value : Phrase → Value}
    (sound : Sound rule tokens value) :
    Sound (many rule) (fun phrases : List Phrase => phrases.flatMap tokens)
      (fun phrases => phrases.map value) := by
  intro input rest found matched
  induction repeats_of_many matched with
  | done missing => exact ⟨[], .nil, rfl⟩
  | idle found idle => exact ⟨[], .nil, rfl⟩
  | step first consumes more inductionHypothesis =>
      obtain ⟨phrase, front, rfl⟩ := sound first
      obtain ⟨phrases, back, rfl⟩ := inductionHypothesis more.many_eq
      exact ⟨phrase :: phrases, by simpa using front.append back, rfl⟩

/-- A repetition takes all phrases up to the place where its rule does not match. -/
theorem many_complete {rule : Rule Value} {tokens : Phrase → List Token} {value : Phrase → Value}
    {extending : Token → Bool} (complete : Complete rule tokens value extending)
    (starts : ∀ phrase, ∃ token more, tokens phrase = token :: more ∧ extending token = false)
    {phrases : List Phrase} {text rest : List Char}
    (reads : Reads text (phrases.flatMap tokens) rest) (avoids : Avoids extending rest)
    (missing : rule (.ofList rest) = .unmatched) :
    many rule (.ofList text) = .matched (phrases.map value) (.ofList rest) := by
  induction phrases generalizing text with
  | nil =>
      cases reads
      exact many_of_unmatched missing
  | cons phrase phrases inductionHypothesis =>
      rw [List.flatMap_cons] at reads
      obtain ⟨middle, front, back⟩ := reads.split
      have ends : Avoids extending middle := by
        cases phrases with
        | nil =>
            cases back
            exact avoids
        | cons next others =>
            obtain ⟨token, more, begins, harmless⟩ := starts next
            rw [List.flatMap_cons, begins, List.cons_append] at back
            exact avoids_of_reads back harmless
      have first := complete front ends
      have consumes : middle.length < text.length := by
        obtain ⟨token, more, begins, -⟩ := starts phrase
        have shorter := front.length_le
        rw [begins, List.length_cons] at shorter
        omega
      rw [many_of_matched first consumes, inductionHypothesis back]
      rfl

/-- An item behind its sign is one round of a left fold. -/
def signed (item : Rule Value) (sign : Char) : Rule (Char × Value) := do
  let sign ← Parser.symbol sign
  let right ← item
  return (sign, right)

theorem symbol_matched_iff {sign : Char} (member : sign ∈ symbols) {text : List Char}
    {rest : Cursor} {found : Char} :
    (Parser.symbol sign : Rule Char) (.ofList text) = .matched found rest ↔
      found = sign ∧ scan text = some (.symbol sign, rest.chars) := by
  rw [symbol_apply member]
  constructor
  · intro matched
    split at matched
    · split_ifs at matched with same
      cases matched
      subst same
      exact ⟨rfl, by assumption⟩
    · cases matched
  · rintro ⟨rfl, scanned⟩
    rw [scanned]
    simp [Cursor.ofList_chars]

theorem symbol_of_scan {sign : Char} (member : sign ∈ symbols) {text rest : List Char}
    (scanned : scan text = some (.symbol sign, rest)) :
    (Parser.symbol sign : Rule Char) (.ofList text) = .matched sign (.ofList rest) :=
  (symbol_matched_iff member).mpr ⟨rfl, scanned⟩

theorem symbol_unmatched {sign : Char} (member : sign ∈ symbols) {text : List Char}
    (avoids : Avoids (· == .symbol sign) text) :
    (Parser.symbol sign : Rule Char) (.ofList text) = .unmatched := by
  rw [symbol_apply member]
  split
  · rename_i found rest scanned
    have other := avoids _ _ scanned
    simp only [beq_eq_false_iff_ne, ne_eq, Token.symbol.injEq] at other
    simp [other]
  · rfl

theorem signed_sound {item : Rule Value} {tokens : Phrase → List Token} {value : Phrase → Value}
    {sign : Char} (member : sign ∈ symbols) (sound : Sound item tokens value) :
    Sound (signed item sign) (fun phrase => .symbol sign :: tokens phrase)
      (fun phrase => (sign, value phrase)) := by
  intro input rest found matched
  unfold signed at matched
  obtain ⟨first, middle, symbol, matched⟩ := bind_matched_iff.mp matched
  obtain ⟨right, last, operand, matched⟩ := bind_matched_iff.mp matched
  obtain ⟨rfl, scanned⟩ := (symbol_matched_iff member).mp
    (show Parser.symbol sign (.ofList input.chars) = .matched first middle by
      rw [Cursor.ofList_chars]; exact symbol)
  obtain ⟨phrase, reads, rfl⟩ := sound operand
  cases matched
  exact ⟨phrase, .cons scanned trivial reads, rfl⟩

theorem signed_complete {item : Rule Value} {tokens : Phrase → List Token}
    {value : Phrase → Value} {extending : Token → Bool} {sign : Char} (member : sign ∈ symbols)
    (complete : Complete item tokens value extending) :
    Complete (signed item sign) (fun phrase => .symbol sign :: tokens phrase)
      (fun phrase => (sign, value phrase)) extending := by
  intro phrase text rest reads avoids
  obtain ⟨middle, scanned, more⟩ := reads.uncons
  unfold signed
  rw [bind_of_matched _ (symbol_of_scan member scanned),
    bind_of_matched _ (complete more avoids)]
  rfl

theorem binaryLeft_eq (item : Rule Node) (sign : Char) (build : Node → Node → Node) :
    binaryLeft item (Parser.symbol sign) (fun _ left right => build left right) = (do
      let first ← item
      let tails ← many (signed item sign)
      return tails.foldl (fun left tail => build left tail.2) first) := rfl

/-- A left fold recognizes the chains of the phrases that its operand recognizes. -/
theorem binaryLeft_sound {item : Rule Node} {tokens : Phrase → List Token}
    {node : Phrase → Node} {sign : Char} (build : Node → Node → Node) (member : sign ∈ symbols)
    (sound : Sound item tokens node) :
    Sound (binaryLeft item (Parser.symbol sign) fun _ left right => build left right)
      (Chain.tokens sign tokens) (Chain.node build node) := by
  intro input rest found matched
  rw [binaryLeft_eq] at matched
  obtain ⟨first, middle, head, matched⟩ := bind_matched_iff.mp matched
  obtain ⟨tails, last, tail, matched⟩ := bind_matched_iff.mp matched
  obtain ⟨phrase, front, rfl⟩ := sound head
  obtain ⟨phrases, back, rfl⟩ := many_sound (signed_sound member sound) tail
  cases matched
  refine ⟨⟨phrase, phrases⟩, front.append back, ?_⟩
  simp [Chain.node, List.foldl_map]

theorem binaryLeft_complete {item : Rule Node} {tokens : Phrase → List Token}
    {node : Phrase → Node} {sign : Char} {extending : Token → Bool} (build : Node → Node → Node)
    (member : sign ∈ symbols) (harmless : extending (.symbol sign) = false)
    (complete : Complete item tokens node extending) :
    Complete (binaryLeft item (Parser.symbol sign) fun _ left right => build left right)
      (Chain.tokens sign tokens) (Chain.node build node)
      (fun token => extending token || token == .symbol sign) := by
  intro chain text rest reads avoids
  obtain ⟨middle, front, back⟩ := reads.split
  have restAvoids : Avoids extending rest := avoids.mono (by simp +contextual)
  have signMissing : signed item sign (.ofList rest) = .unmatched :=
    bind_of_unmatched _ (symbol_unmatched member (avoids.mono (by simp +contextual)))
  have middleAvoids : Avoids extending middle := by
    cases others : chain.others with
    | nil =>
        rw [others] at back
        cases back
        exact restAvoids
    | cons next more =>
        rw [others, List.flatMap_cons, List.cons_append] at back
        exact avoids_of_reads back harmless
  have tails := many_complete (signed_complete member complete)
    (fun phrase => ⟨_, _, rfl, harmless⟩) back restAvoids signMissing
  rw [binaryLeft_eq, bind_of_matched _ (complete front middleAvoids), bind_of_matched _ tails]
  simp [Chain.node, List.foldl_map]

end Rule

end Turtle
