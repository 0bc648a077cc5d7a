import Turtle.Proofs.Combination.Ending

/-
This file compares a combination with the same combination without deferred parts. Whatever has been
built before, the replies are the same, and an application builds exactly the deferred parts that
it reaches and that no application has reached before.
-/

namespace Turtle

variable {ε α β : Type}

/-- A reach tells which labels the application to a text comes upon. -/
abbrev Reach : Type :=
  Cursor → Nat → Prop

namespace Reach

def nowhere : Reach := fun _ _ => False

/-- The second part is applied where a match of the first one stops. -/
def followed (first : Reach) (parser : Parser ε α) (second : Reach) : Reach := fun input label =>
  first input label ∨ ∃ value rest, parser input = .matched value rest ∧ second rest label

/-- The second part is applied to the same text where the first one does not match. -/
def otherwise (first : Reach) (parser : Parser ε α) (second : Reach) : Reach :=
  fun input label => first input label ∨ (parser input = .unmatched ∧ second input label)

/-- The part is applied again where a match that consumes something stops. -/
inductive repeated (round : Reach) (parser : Parser ε α) : Reach where
  | here {input : Cursor} {label : Nat} (reached : round input label) :
      repeated round parser input label
  | later {input rest : Cursor} {value : α} {label : Nat}
      (found : parser input = .matched value rest) (consumes : rest.remaining < input.remaining)
      (reached : repeated round parser rest label) : repeated round parser input label

theorem repeated_iff {round : Reach} {parser : Parser ε α} {input : Cursor} {label : Nat} :
    round.repeated parser input label ↔
      round input label ∨ ∃ value rest, parser input = .matched value rest ∧
        rest.remaining < input.remaining ∧ round.repeated parser rest label := by
  constructor
  · rintro (reached | ⟨found, consumes, reached⟩)
    · exact .inl reached
    · exact .inr ⟨_, _, found, consumes, reached⟩
  · rintro (reached | ⟨value, rest, found, consumes, reached⟩)
    · exact .here reached
    · exact .later found consumes reached

/-- A deferred part is reached itself before it is applied. -/
def labelled (own : Nat) (part : Reach) : Reach := fun input label =>
  label = own ∨ part input label

/-- Only these labels are reached. -/
def Within (reach : Reach) (labels : List Nat) : Prop :=
  ∀ ⦃input label⦄, reach input label → label ∈ labels

theorem within_nowhere (labels : List Nat) : nowhere.Within labels :=
  nofun

section

variable {first second : Reach} {labels others : List Nat}

theorem Within.followed {parser : Parser ε α} (front : first.Within labels)
    (back : second.Within others) : (first.followed parser second).Within (labels ++ others) := by
  rintro input label (reached | ⟨value, rest, -, reached⟩)
  · exact List.mem_append_left others (front reached)
  · exact List.mem_append_right labels (back reached)

theorem Within.otherwise {parser : Parser ε α} (front : first.Within labels)
    (back : second.Within others) :
    (first.otherwise parser second).Within (labels ++ others) := by
  rintro input label (reached | ⟨-, reached⟩)
  · exact List.mem_append_left others (front reached)
  · exact List.mem_append_right labels (back reached)

theorem Within.repeated {parser : Parser ε α} (within : first.Within labels) :
    (first.repeated parser).Within labels := by
  intro input label reached
  induction reached with
  | here reached => exact within reached
  | later _ _ _ inductionHypothesis => exact inductionHypothesis

theorem Within.labelled (within : first.Within labels) (own : Nat) :
    (first.labelled own).Within (own :: labels) := by
  rintro input label (rfl | reached)
  · exact List.mem_cons_self
  · exact List.mem_cons_of_mem own (within reached)

theorem Within.mono (within : first.Within labels) (subset : labels ⊆ others) :
    first.Within others :=
  fun _ _ reached => subset (within reached)

end

end Reach

/-- The labels that an application came upon are added to those built before, and none is built
twice. -/
structure Adds (built : List Nat) (reached : Nat → Prop) (after : List Nat) : Prop where
  mem_iff : ∀ label, label ∈ after ↔ label ∈ built ∨ reached label
  nodup : built.Nodup → after.Nodup

namespace Adds

variable {built between after : List Nat} {first second : Nat → Prop}

theorem nothing (missing : ∀ label, ¬first label) : Adds built first built where
  mem_iff label := by simp [missing]
  nodup := id

theorem trans (front : Adds built first between) (back : Adds between second after) :
    Adds built (fun label => first label ∨ second label) after where
  mem_iff label := by rw [back.mem_iff, front.mem_iff, or_assoc]
  nodup distinct := back.nodup (front.nodup distinct)

theorem congr (adds : Adds built first after) (same : ∀ label, first label ↔ second label) :
    Adds built second after where
  mem_iff label := by rw [adds.mem_iff, same]
  nodup := adds.nodup

/-- The label of a part is new the first time and is kept from then on. -/
theorem single (built : List Nat) (own : Nat) :
    Adds built (· = own) (if built.contains own then built else own :: built) := by
  by_cases known : own ∈ built
  · rw [if_pos (List.contains_iff_mem.mpr known)]
    constructor
    · intro label
      constructor
      · exact .inl
      · rintro (old | rfl)
        · exact old
        · exact known
    · exact id
  · rw [if_neg (mt List.contains_iff_mem.mp known)]
    constructor
    · intro label
      rw [List.mem_cons, or_comm]
    · exact fun distinct => List.nodup_cons.mpr ⟨known, distinct⟩

end Adds

namespace Building

/-- The building parser replies as the plain parser does, from whatever has been built, and builds
what it reaches. -/
def Tracks (building : Building ε α) (parser : Parser ε α) (reach : Reach) : Prop :=
  ∀ built input, ∃ after, building built input = (parser input, after) ∧
    Adds built (reach input) after

namespace Tracks

variable {building : Building ε α} {parser : Parser ε α} {reach : Reach}

theorem ofParser (parser : Parser ε α) : Tracks (.ofParser parser) parser .nowhere :=
  fun built _ => ⟨built, rfl, .nothing fun _ => id⟩

theorem pure (value : α) :
    Tracks (Pure.pure value : Building ε α) (Pure.pure value) .nowhere :=
  fun built _ => ⟨built, rfl, .nothing fun _ => id⟩

theorem congr {other : Reach} (tracks : Tracks building parser reach)
    (same : ∀ input label, reach input label ↔ other input label) :
    Tracks building parser other := by
  intro built input
  obtain ⟨after, replied, adds⟩ := tracks built input
  exact ⟨after, replied, adds.congr (same input)⟩

theorem bind {next : α → Building ε β} {follow : α → Parser ε β} {second : Reach}
    (tracks : Tracks building parser reach)
    (others : ∀ value, Tracks (next value) (follow value) second) :
    Tracks (building >>= next) (parser >>= follow) (reach.followed parser second) := by
  intro built input
  obtain ⟨between, replied, front⟩ := tracks built input
  rw [bind_apply, replied, Parser.bind_apply]
  cases reply : parser input with
  | matched value rest =>
      obtain ⟨after, continued, back⟩ := others value between rest
      refine ⟨after, continued, (front.trans back).congr fun label => ?_⟩
      simp [Reach.followed, reply]
  | unmatched => exact ⟨between, rfl, front.congr fun label => by simp [Reach.followed, reply]⟩
  | aborted cause => exact ⟨between, rfl, front.congr fun label => by simp [Reach.followed, reply]⟩

/-- What follows without deferred parts adds nothing to the reach. -/
theorem plain {next : α → Building ε β} {follow : α → Parser ε β}
    (tracks : Tracks building parser reach)
    (others : ∀ value, Tracks (next value) (follow value) .nowhere) :
    Tracks (building >>= next) (parser >>= follow) reach :=
  (tracks.bind others).congr fun input label => by simp [Reach.followed, Reach.nowhere]

theorem map (tracks : Tracks building parser reach) (f : α → β) :
    Tracks (f <$> building) (f <$> parser) reach :=
  tracks.plain fun value => pure (f value)

theorem andThen (tracks : Tracks building parser reach) (next : Reply ε α → Reply ε β) :
    Tracks (building.andThen next) (fun input => next (parser input)) reach := by
  intro built input
  obtain ⟨after, replied, adds⟩ := tracks built input
  exact ⟨after, by simp only [Building.andThen, replied], adds⟩

theorem choice {buildings : List (Building ε α)} {parsers : List (Parser ε α)} {second : Reach}
    (tracks : Tracks building parser reach)
    (others : Tracks (Building.choice buildings) (Parser.choice parsers) second) :
    Tracks (Building.choice (building :: buildings)) (Parser.choice (parser :: parsers))
      (reach.otherwise parser second) := by
  intro built input
  obtain ⟨between, replied, front⟩ := tracks built input
  simp only [Building.choice, Parser.choice, replied]
  cases reply : parser input with
  | matched value rest =>
      exact ⟨between, rfl, front.congr fun label => by simp [Reach.otherwise, reply]⟩
  | unmatched =>
      obtain ⟨after, continued, back⟩ := others between input
      refine ⟨after, continued, (front.trans back).congr fun label => ?_⟩
      simp [Reach.otherwise, reply]
  | aborted cause =>
      exact ⟨between, rfl, front.congr fun label => by simp [Reach.otherwise, reply]⟩

theorem deferred (tracks : Tracks building parser reach) (own : Nat) :
    Tracks (Building.deferred own building) parser (reach.labelled own) := by
  intro built input
  obtain ⟨after, replied, adds⟩ :=
    tracks (if built.contains own then built else own :: built) input
  exact ⟨after, replied, (Adds.single built own).trans adds⟩

/-- The rounds of a repetition are tracked one by one. -/
theorem rounds (tracks : Tracks building parser reach) {built after : List Nat} {input : Cursor}
    {reply : Reply ε (List α)} (rounds : Ending.Rounds building.Gives built input reply after) :
    Parser.many parser input = reply ∧ Adds built (reach.repeated parser input) after := by
  have tracked {built after : List Nat} {input : Cursor} {answer : Reply ε α}
      (given : building.Gives built input answer after) :
      parser input = answer ∧ Adds built (reach input) after := by
    obtain ⟨between, replied, adds⟩ := tracks built input
    cases replied.symm.trans given
    exact ⟨rfl, adds⟩
  induction rounds with
  | done missing =>
      obtain ⟨missing, adds⟩ := tracked missing
      refine ⟨Parser.many_of_unmatched missing, adds.congr fun label => ?_⟩
      rw [Reach.repeated_iff]
      simp [missing]
  | idle found idle =>
      obtain ⟨found, adds⟩ := tracked found
      refine ⟨(Parser.Repeats.idle found idle).many_eq, adds.congr fun label => ?_⟩
      rw [Reach.repeated_iff]
      simp [found, idle]
  | aborted given =>
      obtain ⟨given, adds⟩ := tracked given
      refine ⟨by simp [Parser.many, Parser.manyWithin, given], adds.congr fun label => ?_⟩
      rw [Reach.repeated_iff]
      simp [given]
  | step found consumes _ inductionHypothesis =>
      obtain ⟨found, front⟩ := tracked found
      obtain ⟨rfl, back⟩ := inductionHypothesis
      refine ⟨Parser.many_of_matched found consumes, (front.trans back).congr fun label => ?_⟩
      refine Iff.trans ?_ Reach.repeated_iff.symm
      simp [found, consumes]

theorem many (tracks : Tracks building parser reach) :
    Tracks (Building.many building) (Parser.many parser) (reach.repeated parser) := by
  intro built input
  have given : (Building.many building).Gives built input (Building.many building built input).1
      (Building.many building built input).2 := rfl
  rw [gives_many] at given
  obtain ⟨replied, adds⟩ := tracks.rounds given
  exact ⟨_, by rw [replied], adds⟩

end Tracks

end Building

namespace Combination

mutual

/-- These labels are reached when the plain parser is applied to a text. -/
def Reaches : Combination ε α → Reach
  | .satisfy _ _ => .nowhere
  | .map part _ | .keep part _ | .lexeme part _ | .atEnd part => Reaches part
  | .many part _ | .binaryRight part _ => (Reaches part).repeated (parser part)
  | .sequence parts _ => reachesInTurn parts
  | .choice parts => reachesUntilMatch parts
  | .deferred label part => (Reaches part).labelled label
  | .binaryLeft base operator _ =>
      (Reaches base).followed (parser base)
        (((Reaches operator).followed (parser operator) (Reaches base)).repeated do
          let sign ← parser operator
          let right ← parser base
          return (sign, right))
  | .brackets opening inner closing =>
      (Reaches opening).followed (parser opening)
        ((Reaches inner).followed (parser inner) (Reaches closing))

def reachesInTurn : List (Combination ε α) → Reach
  | [] => .nowhere
  | part :: rest => (Reaches part).followed (parser part) (reachesInTurn rest)

def reachesUntilMatch : List (Combination ε α) → Reach
  | [] => .nowhere
  | part :: rest => (Reaches part).otherwise (parser part) (reachesUntilMatch rest)

end

open Building

mutual

theorem building_tracks : ∀ combination : Combination ε α,
    Tracks combination.building combination.parser combination.Reaches
  | .satisfy test build => by
      rw [building, parser, Reaches]
      exact (Tracks.ofParser (Parser.satisfy test)).map build
  | .map part action => by
      rw [building, parser, Reaches]
      exact (building_tracks part).andThen (Reply.convert action)
  | .many part collect => by
      rw [building, parser, Reaches]
      exact (building_tracks part).many.map collect
  | .keep part test => by
      rw [building, parser, Reaches]
      exact (building_tracks part).andThen _
  | .sequence parts collect => by
      rw [building, parser, Reaches]
      exact (sequence_tracks parts).map collect
  | .choice parts => by
      rw [building, parser, Reaches]
      exact choice_tracks parts
  | .deferred label part => by
      rw [building, parser, Reaches]
      exact (building_tracks part).deferred label
  | .lexeme part bounded => by
      rw [building, parser, Reaches]
      refine (building_tracks part).plain fun value =>
        (Tracks.ofParser Parser.spaces).plain fun blanks => ?_
      split_ifs
      · exact .ofParser _
      · exact .pure value
  | .binaryLeft base operator combine => by
      rw [building, parser, Reaches]
      have tail := (building_tracks operator).bind fun sign =>
        (building_tracks base).map fun right => (sign, right)
      exact (building_tracks base).bind fun first => tail.many.map _
  | .binaryRight base combine => by
      rw [building, parser, Reaches]
      exact (building_tracks base).many.andThen _
  | .brackets opening inner closing => by
      rw [building, parser, Reaches]
      exact (building_tracks opening).bind fun _ => (building_tracks inner).bind fun value =>
        (building_tracks closing).plain fun _ => .pure value
  | .atEnd part => by
      rw [building, parser, Reaches]
      exact (building_tracks part).andThen Reply.atEnd

theorem sequence_tracks : ∀ combinations : List (Combination ε α),
    Tracks (Building.sequence (buildings combinations)) (Parser.sequence (parsers combinations))
      (reachesInTurn combinations)
  | [] => Tracks.pure []
  | part :: rest => by
      rw [buildings, parsers, reachesInTurn]
      exact (building_tracks part).bind fun value => (sequence_tracks rest).map (value :: ·)

theorem choice_tracks : ∀ combinations : List (Combination ε α),
    Tracks (Building.choice (buildings combinations)) (Parser.choice (parsers combinations))
      (reachesUntilMatch combinations)
  | [] => fun built _ => ⟨built, rfl, .nothing fun _ => id⟩
  | part :: rest => by
      rw [buildings, parsers, reachesUntilMatch]
      exact (building_tracks part).choice (choice_tracks rest)

end

/-- A run over several texts replies to each of them as if it came first. -/
theorem applyEach_tracks (combination : Combination ε α) (built : List Nat)
    (inputs : List Cursor) :
    ∃ after, combination.applyEach built inputs =
        (inputs.map fun input => combination.parser input, after) ∧
      Adds built (fun label => ∃ input ∈ inputs, combination.Reaches input label) after := by
  induction inputs generalizing built with
  | nil => exact ⟨built, rfl, .nothing (by simp)⟩
  | cons input rest inductionHypothesis =>
      obtain ⟨between, replied, front⟩ := building_tracks combination built input
      obtain ⟨after, continued, back⟩ := inductionHypothesis between
      refine ⟨after, ?_, (front.trans back).congr fun label => by simp⟩
      simp only [applyEach, replied, continued]
      rfl

mutual

/-- Every deferred part is replaced by the part itself. -/
def eager : Combination ε α → Combination ε α
  | .satisfy test build => .satisfy test build
  | .map part action => .map (eager part) action
  | .many part collect => .many (eager part) collect
  | .keep part test => .keep (eager part) test
  | .sequence parts collect => .sequence (eagers parts) collect
  | .choice parts => .choice (eagers parts)
  | .deferred _ part => eager part
  | .lexeme part bounded => .lexeme (eager part) bounded
  | .binaryLeft base operator combine => .binaryLeft (eager base) (eager operator) combine
  | .binaryRight base combine => .binaryRight (eager base) combine
  | .brackets opening inner closing => .brackets (eager opening) (eager inner) (eager closing)
  | .atEnd part => .atEnd (eager part)

def eagers : List (Combination ε α) → List (Combination ε α)
  | [] => []
  | part :: rest => eager part :: eagers rest

end

mutual

/-- The labels of the deferred parts stand in the order of the parts. -/
def labels : Combination ε α → List Nat
  | .satisfy _ _ => []
  | .map part _ | .many part _ | .keep part _ | .lexeme part _ | .binaryRight part _
  | .atEnd part => labels part
  | .sequence parts _ | .choice parts => allLabels parts
  | .deferred label part => label :: labels part
  | .binaryLeft base operator _ => labels base ++ labels operator
  | .brackets opening inner closing => labels opening ++ (labels inner ++ labels closing)

def allLabels : List (Combination ε α) → List Nat
  | [] => []
  | part :: rest => labels part ++ allLabels rest

end

mutual

theorem parser_eager : ∀ combination : Combination ε α,
    combination.eager.parser = combination.parser
  | .satisfy _ _ => rfl
  | .map part _ | .many part _ | .keep part _ | .lexeme part _ | .binaryRight part _
  | .atEnd part => by simp only [eager, parser, parser_eager part]
  | .sequence parts _ | .choice parts => by simp only [eager, parser, parsers_eagers parts]
  | .deferred _ part => by simp only [eager, parser, parser_eager part]
  | .binaryLeft base operator _ => by
      simp only [eager, parser, parser_eager base, parser_eager operator]
  | .brackets opening inner closing => by
      simp only [eager, parser, parser_eager opening, parser_eager inner, parser_eager closing]

theorem parsers_eagers : ∀ combinations : List (Combination ε α),
    parsers (eagers combinations) = parsers combinations
  | [] => rfl
  | part :: rest => by simp only [eagers, parsers, parser_eager part, parsers_eagers rest]

end

mutual

theorem labels_eager : ∀ combination : Combination ε α, combination.eager.labels = []
  | .satisfy _ _ => rfl
  | .map part _ | .many part _ | .keep part _ | .lexeme part _ | .binaryRight part _
  | .atEnd part | .deferred _ part => by simp only [eager, labels, labels_eager part]
  | .sequence parts _ | .choice parts => by simp only [eager, labels, allLabels_eagers parts]
  | .binaryLeft base operator _ => by
      simp only [eager, labels, labels_eager base, labels_eager operator, List.append_nil]
  | .brackets opening inner closing => by
      simp only [eager, labels, labels_eager opening, labels_eager inner, labels_eager closing,
        List.append_nil]

theorem allLabels_eagers : ∀ combinations : List (Combination ε α),
    allLabels (eagers combinations) = []
  | [] => rfl
  | part :: rest => by
      simp only [eagers, allLabels, labels_eager part, allLabels_eagers rest, List.append_nil]

end

mutual

/-- Numbering changes the labels only. They count up from the first one to the next free one. -/
theorem number_eq : ∀ (combination : Combination ε α) (next : Nat),
    (combination.number next).2 = next + combination.labels.length ∧
      (combination.number next).1.labels = List.range' next combination.labels.length ∧
      (combination.number next).1.eager = combination.eager
  | .satisfy _ _, next => by simp [number, labels]
  | .map part _, next | .many part _, next | .keep part _, next | .lexeme part _, next
  | .binaryRight part _, next | .atEnd part, next => by
      simpa only [number, labels, eager, map.injEq, many.injEq, keep.injEq, lexeme.injEq,
        binaryRight.injEq, atEnd.injEq, and_true] using number_eq part next
  | .sequence parts _, next | .choice parts, next => by
      simpa only [number, labels, eager, sequence.injEq, choice.injEq, and_true] using
        numberAll_eq parts next
  | .deferred _ part, next => by
      obtain ⟨following, numbered, same⟩ := number_eq part (next + 1)
      simp only [number, labels, eager, following, numbered, same, List.length_cons,
        List.range'_succ, and_self, and_true]
      omega
  | .binaryLeft base operator _, next => by
      obtain ⟨following, numbered, same⟩ := number_eq base next
      obtain ⟨last, others, alike⟩ := number_eq operator (number next base).2
      rw [following] at last others alike
      simp only [number, labels, eager, following, numbered, same, last, others, alike,
        List.length_append, List.range'_append_1, and_true]
      omega
  | .brackets opening inner closing, next => by
      obtain ⟨following, numbered, same⟩ := number_eq opening next
      obtain ⟨middle, between, equal⟩ := number_eq inner (number next opening).2
      rw [following] at middle between equal
      obtain ⟨last, others, alike⟩ := number_eq closing (next + opening.labels.length +
        inner.labels.length)
      simp only [number, labels, eager, following, numbered, same, middle, between, equal, last,
        others, alike, List.length_append, List.range'_append_1, and_true]
      omega

theorem numberAll_eq : ∀ (combinations : List (Combination ε α)) (next : Nat),
    (numberAll next combinations).2 = next + (allLabels combinations).length ∧
      allLabels (numberAll next combinations).1 =
        List.range' next (allLabels combinations).length ∧
      eagers (numberAll next combinations).1 = eagers combinations
  | [], next => by simp [numberAll, allLabels]
  | part :: rest, next => by
      obtain ⟨following, numbered, same⟩ := number_eq part next
      obtain ⟨last, others, alike⟩ := numberAll_eq rest (number next part).2
      rw [following] at last others alike
      simp only [numberAll, allLabels, eagers, following, numbered, same, last, others, alike,
        List.length_append, List.range'_append_1, and_true]
      omega

end

mutual

/-- Every label that is reached belongs to a deferred part. -/
theorem reaches_within : ∀ combination : Combination ε α,
    combination.Reaches.Within combination.labels
  | .satisfy _ _ => Reach.within_nowhere _
  | .map part _ | .keep part _ | .lexeme part _ | .atEnd part => by
      rw [Reaches, labels]
      exact reaches_within part
  | .many part _ | .binaryRight part _ => by
      rw [Reaches, labels]
      exact (reaches_within part).repeated
  | .sequence parts _ => by
      rw [Reaches, labels]
      exact reachesInTurn_within parts
  | .choice parts => by
      rw [Reaches, labels]
      exact reachesUntilMatch_within parts
  | .deferred label part => by
      rw [Reaches, labels]
      exact (reaches_within part).labelled label
  | .binaryLeft base operator _ => by
      rw [Reaches, labels]
      exact ((reaches_within base).followed
        ((reaches_within operator).followed (reaches_within base)).repeated).mono (by simp)
  | .brackets opening inner closing => by
      rw [Reaches, labels]
      exact (reaches_within opening).followed
        ((reaches_within inner).followed (reaches_within closing))

theorem reachesInTurn_within : ∀ combinations : List (Combination ε α),
    (reachesInTurn combinations).Within (allLabels combinations)
  | [] => Reach.within_nowhere _
  | part :: rest => (reaches_within part).followed (reachesInTurn_within rest)

theorem reachesUntilMatch_within : ∀ combinations : List (Combination ε α),
    (reachesUntilMatch combinations).Within (allLabels combinations)
  | [] => Reach.within_nowhere _
  | part :: rest => (reaches_within part).otherwise (reachesUntilMatch_within rest)

end

/-- From the first text on, exactly those deferred parts are built that some text reaches. -/
theorem applyToTexts_tracks (combination : Combination ε α) (texts : List String) :
    ∃ built : List Nat, combination.applyToTexts texts =
        (texts.map fun text => combination.eager.parser (.ofString text), built.length) ∧
      built.Nodup ∧ ∀ label, label ∈ built ↔ label ∈ (combination.number 0).1.labels ∧
        ∃ text ∈ texts, (combination.number 0).1.Reaches (.ofString text) label := by
  obtain ⟨-, -, same⟩ := number_eq combination 0
  obtain ⟨built, replied, adds⟩ :=
    applyEach_tracks (combination.number 0).1 [] (texts.map Cursor.ofString)
  refine ⟨built, ?_, adds.nodup List.nodup_nil, fun label => ?_⟩
  · simp only [applyToTexts, replied, ← parser_eager (combination.number 0).1, same, List.map_map,
      Function.comp_def]
  · rw [adds.mem_iff]
    constructor
    · rintro (old | ⟨input, member, reached⟩)
      · cases old
      · obtain ⟨text, given, rfl⟩ := List.mem_map.mp member
        exact ⟨reaches_within _ reached, text, given, reached⟩
    · rintro ⟨-, text, given, reached⟩
      exact .inr ⟨_, List.mem_map_of_mem given, reached⟩

theorem eager_applyToTexts (combination : Combination ε α) (texts : List String) :
    combination.eager.applyToTexts texts =
      (texts.map fun text => combination.eager.parser (.ofString text), 0) := by
  obtain ⟨built, replied, -, mem_iff⟩ := applyToTexts_tracks combination.eager texts
  obtain ⟨-, numbered, -⟩ := number_eq combination.eager 0
  rw [labels_eager, List.length_nil, List.range'_zero] at numbered
  have none : built = [] := by
    apply List.eq_nil_iff_forall_not_mem.mpr
    intro label member
    have listed := ((mem_iff label).mp member).1
    rw [numbered] at listed
    cases listed
  rw [replied, none, parser_eager]
  rfl

/-- Deferred parts are transparent and built at most once. Whatever has been built before, each text
gets the reply of the combination in which every deferred part is replaced by the part itself, and
exactly the parts that some text reaches are added to those built, none of them twice. With a label
of its own for each deferred part, as many parsers are built as parts are reached. -/
theorem deferred_transparent (combination : Combination ε α) (texts : List String) :
    let replies := texts.map fun text => combination.eager.parser (.ofString text)
    let numbered := (combination.number 0).1
    combination.eager.labels = [] ∧ combination.eager.applyToTexts texts = (replies, 0) ∧
      (∀ built, ∃ after,
        combination.applyEach built (texts.map Cursor.ofString) = (replies, after) ∧
        Adds built (fun label => ∃ text ∈ texts, combination.Reaches (.ofString text) label)
          after) ∧
      numbered.eager = combination.eager ∧ numbered.labels.Nodup ∧
      ∃ built : List Nat, combination.applyToTexts texts = (replies, built.length) ∧
        built.Nodup ∧ ∀ label, label ∈ built ↔
          label ∈ numbered.labels ∧ ∃ text ∈ texts, numbered.Reaches (.ofString text) label := by
  obtain ⟨-, numbered, same⟩ := number_eq combination 0
  refine ⟨labels_eager combination, eager_applyToTexts combination texts, fun built => ?_, same, ?_,
    applyToTexts_tracks combination texts⟩
  · obtain ⟨after, replied, adds⟩ :=
      applyEach_tracks combination built (texts.map Cursor.ofString)
    refine ⟨after, ?_, adds.congr fun label => by simp⟩
    simp only [replied, parser_eager, List.map_map, Function.comp_def]
  · rw [numbered]
    exact List.nodup_range'

/-- The second text is the first one that reaches the deferred part, and the third one finds it
built. -/
example : (choice [satisfy Char.isDigit fun _ => 0,
      deferred 7 (satisfy Char.isAlpha fun _ => 1)] : Combination Empty Nat).applyEach []
    [.ofList ['3'], .ofList ['a'], .ofList ['b']] =
      ([.matched 0 (.ofList []), .matched 1 (.ofList []), .matched 1 (.ofList [])], [7]) :=
  rfl

end Combination

end Turtle
