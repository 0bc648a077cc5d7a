import Mathlib.Tactic.Common

/-
This file inverts computations that may fail, and follows the causes for which they fail.
-/

namespace Turtle.Fallible

variable {ε α β : Type}

theorem ok_bind (value : α) (next : α → Except ε β) : Except.ok value >>= next = next value :=
  rfl

theorem bind_eq_ok_iff {first : Except ε α} {next : α → Except ε β} {result : β} :
    first >>= next = .ok result ↔ ∃ value, first = .ok value ∧ next value = .ok result := by
  cases first with
  | error cause => simp [bind, Except.bind]
  | ok value => simp [bind, Except.bind]

theorem map_eq_ok_iff {first : Except ε α} {build : α → β} {result : β} :
    first.map build = .ok result ↔ ∃ value, first = .ok value ∧ result = build value := by
  cases first with
  | error cause => simp [Except.map]
  | ok value => simp [Except.map, eq_comm]

theorem mapM_cons_eq_ok_iff {step : α → Except ε β} {item : α} {rest : List α}
    {results : List β} :
    (item :: rest).mapM step = .ok results ↔
      ∃ first others, step item = .ok first ∧ rest.mapM step = .ok others ∧
        results = first :: others := by
  rw [List.mapM_cons, bind_eq_ok_iff]
  constructor
  · rintro ⟨first, found, more⟩
    obtain ⟨others, rest, same⟩ := bind_eq_ok_iff.mp more
    cases same
    exact ⟨first, others, found, rest, rfl⟩
  · rintro ⟨first, others, found, more, rfl⟩
    exact ⟨first, found, bind_eq_ok_iff.mpr ⟨others, more, rfl⟩⟩

theorem length_of_mapM {step : α → Except ε β} {items : List α} {results : List β}
    (found : items.mapM step = .ok results) : results.length = items.length := by
  induction items generalizing results with
  | nil =>
      cases found
      rfl
  | cons item rest inductionHypothesis =>
      obtain ⟨first, others, -, more, rfl⟩ := mapM_cons_eq_ok_iff.mp found
      rw [List.length_cons, List.length_cons, inductionHypothesis more]

/-- A computation succeeds when its first step does and the others succeed after it. -/
theorem exists_bind_iff {first : Except ε α} {next : α → Except ε β} {rest : Prop}
    (carries : ∀ value, (∃ result, next value = .ok result) ↔ rest) :
    (∃ result, first >>= next = .ok result) ↔ (∃ value, first = .ok value) ∧ rest := by
  simp only [bind_eq_ok_iff]
  constructor
  · rintro ⟨result, value, found, more⟩
    exact ⟨⟨value, found⟩, (carries value).mp ⟨result, more⟩⟩
  · rintro ⟨⟨value, found⟩, holds⟩
    obtain ⟨result, more⟩ := (carries value).mpr holds
    exact ⟨result, value, found, more⟩

theorem exists_map_iff {first : Except ε α} {build : α → β} :
    (∃ result, (do return build (← first)) = .ok result) ↔ ∃ value, first = .ok value :=
  (exists_bind_iff fun value => iff_true_intro ⟨build value, rfl⟩).trans (iff_of_eq (and_true _))

theorem exists_map₂_iff {γ : Type} {first : Except ε α} {second : Except ε β}
    {build : α → β → γ} :
    (∃ result, (do
        let value ← first
        return build value (← second)) = .ok result) ↔
      (∃ value, first = .ok value) ∧ ∃ value, second = .ok value :=
  exists_bind_iff fun _ => exists_map_iff

theorem exists_map₃_iff {γ δ : Type} {first : Except ε α} {second : Except ε β}
    {third : Except ε γ} {build : α → β → γ → δ} :
    (∃ result, (do
        let value ← first
        let other ← second
        return build value other (← third)) = .ok result) ↔
      (∃ value, first = .ok value) ∧ (∃ value, second = .ok value) ∧
        ∃ value, third = .ok value :=
  exists_bind_iff fun _ => exists_map₂_iff

theorem eq_ok_of_toOption {result : Except ε α} {value : α} (found : result.toOption = some value) :
    result = .ok value := by
  cases result with
  | error cause => cases found
  | ok other => exact congrArg _ (Option.some.inj found)

theorem exists_mapError_iff {δ : Type} {result : Except ε α} {change : ε → δ} :
    (∃ value, result.mapError change = .ok value) ↔ ∃ value, result = .ok value := by
  cases result <;> simp [Except.mapError]

theorem exists_mapM_iff {step : α → Except ε β} {items : List α} :
    (∃ results, items.mapM step = .ok results) ↔
      ∀ item ∈ items, ∃ result, step item = .ok result := by
  induction items with
  | nil => simp [pure, Except.pure]
  | cons item rest inductionHypothesis =>
      rw [List.mapM_cons, exists_map₂_iff, inductionHypothesis, List.forall_mem_cons]

/-- A step that fails on some items fails on a list that has one of them. -/
theorem mapM_guarded {holds : α → Prop} [DecidablePred holds] {step : α → β} {items : List α} :
    (items.mapM fun item => if holds item then some (step item) else none) =
      if ∀ item ∈ items, holds item then some (items.map step) else none := by
  induction items with
  | nil => simp
  | cons item rest inductionHypothesis =>
      rw [List.mapM_cons, inductionHypothesis]
      by_cases first : holds item
      · by_cases others : ∀ item ∈ rest, holds item
        · rw [if_pos first, if_pos others, if_pos (List.forall_mem_cons.mpr ⟨first, others⟩)]
          rfl
        · rw [if_pos first, if_neg others, if_neg fun all => others (List.forall_mem_cons.mp all).2]
          rfl
      · rw [if_neg first, if_neg fun all => first (List.forall_mem_cons.mp all).1]
        rfl

/-- The computation fails for such causes only. -/
def FailsOnly (holds : ε → Prop) (result : Except ε α) : Prop :=
  ∀ cause, result = .error cause → holds cause

section

variable {holds : ε → Prop}

theorem failsOnly_ok (value : α) : FailsOnly holds (.ok value) :=
  nofun

theorem failsOnly_error {cause : ε} (held : holds cause) :
    FailsOnly holds (.error cause : Except ε α) := by
  rintro other ⟨⟩
  exact held

theorem FailsOnly.mono {weaker : ε → Prop} {result : Except ε α} (fails : FailsOnly holds result)
    (implies : ∀ cause, holds cause → weaker cause) : FailsOnly weaker result :=
  fun cause failed => implies cause (fails cause failed)

theorem FailsOnly.bind {first : Except ε α} {next : α → Except ε β}
    (start : FailsOnly holds first) (follow : ∀ value, FailsOnly holds (next value)) :
    FailsOnly holds (first >>= next) := by
  cases first with
  | error cause => exact failsOnly_error (start cause rfl)
  | ok value => exact follow value

theorem FailsOnly.map {first : Except ε α} (start : FailsOnly holds first) (build : α → β) :
    FailsOnly holds (first.map build) := by
  cases first with
  | error cause => exact failsOnly_error (start cause rfl)
  | ok value => exact failsOnly_ok _

theorem FailsOnly.mapM {step : α → Except ε β} {items : List α}
    (each : ∀ item ∈ items, FailsOnly holds (step item)) : FailsOnly holds (items.mapM step) := by
  induction items with
  | nil => exact failsOnly_ok _
  | cons item rest inductionHypothesis =>
      obtain ⟨first, others⟩ := List.forall_mem_cons.mp each
      rw [List.mapM_cons]
      exact first.bind fun _ => (inductionHypothesis others).bind fun _ => failsOnly_ok _

end

end Turtle.Fallible
