import Mathlib.Data.List.Forall2

/-!
# Steps that may refuse

A reader is made up of steps each of which gives a value or a reason for refusing. Such a chain
gives a value exactly if every step does, so a chain that has succeeded can be taken apart from
the front.
-/
namespace DebugLens

variable {ε α β : Type}

/-- A chain of two steps succeeds exactly if the first one does and the second one does with its
value. -/
theorem bind_eq_ok_iff {first : Except ε α} {next : α → Except ε β} {result : β} :
    (first >>= next) = .ok result ↔ ∃ value, first = .ok value ∧ next value = .ok result := by
  cases first with
  | error reason => exact iff_of_false nofun fun ⟨_, succeeded, _⟩ => nomatch succeeded
  | ok value =>
    constructor
    · exact fun succeeded => ⟨value, rfl, succeeded⟩
    · rintro ⟨_, ⟨⟩, succeeded⟩
      exact succeeded

/-- A step whose value is changed afterwards succeeds exactly if it does so unchanged. -/
theorem map_eq_ok_iff {first : Except ε α} {change : α → β} {result : β} :
    first.map change = .ok result ↔ ∃ value, first = .ok value ∧ change value = result := by
  cases first with
  | error reason => exact iff_of_false nofun fun ⟨_, succeeded, _⟩ => nomatch succeeded
  | ok value =>
    constructor
    · exact fun succeeded => ⟨value, rfl, Except.ok.inj succeeded⟩
    · rintro ⟨_, ⟨⟩, rfl⟩
      rfl

/-- A step whose reason is changed afterwards refuses exactly if it does so unchanged. -/
theorem mapError_eq_error_iff {ζ : Type} {first : Except ε α} {change : ε → ζ} {reason : ζ} :
    first.mapError change = .error reason ↔ ∃ fault, first = .error fault ∧ change fault = reason := by
  cases first with
  | error fault =>
    constructor
    · exact fun refused => ⟨fault, rfl, Except.error.inj refused⟩
    · rintro ⟨_, ⟨⟩, rfl⟩
      rfl
  | ok value => exact iff_of_false nofun fun ⟨_, refused, _⟩ => nomatch refused

/-- The value of a step that may refuse is there exactly if the step succeeds with it. -/
theorem toOption_eq_some_iff {step : Except ε α} {value : α} :
    step.toOption = some value ↔ step = .ok value := by
  cases step with
  | error reason => exact iff_of_false nofun nofun
  | ok result => simp [Except.toOption]

/-- Steps made for the items of a list succeed exactly if each one does. -/
theorem mapM_eq_ok_iff {step : α → Except ε β} {items : List α} {results : List β} :
    items.mapM step = .ok results ↔
      List.Forall₂ (fun item result => step item = .ok result) items results := by
  induction items generalizing results with
  | nil => exact ⟨fun succeeded => Except.ok.inj succeeded ▸ .nil, fun all => by cases all; rfl⟩
  | cons item items hypothesis =>
    rw [List.mapM_cons, bind_eq_ok_iff]
    constructor
    · rintro ⟨result, succeeded, rest⟩
      obtain ⟨others, all, last⟩ := bind_eq_ok_iff.mp rest
      obtain rfl := Except.ok.inj last
      exact .cons succeeded (hypothesis.mp all)
    · rintro (_ | ⟨succeeded, all⟩)
      exact ⟨_, succeeded, bind_eq_ok_iff.mpr ⟨_, hypothesis.mpr all, rfl⟩⟩

/-- Steps that are known to change a state in some way do so one after another. -/
theorem foldlM_eq_ok {σ ι : Type} {step : σ → ι → Except ε σ} {change : σ → α → σ}
    {items : List α} {values : List ι}
    (each : List.Forall₂ (fun item value => ∀ state, step state value = .ok (change state item))
      items values) (state : σ) :
    values.foldlM step state = .ok (items.foldl change state) := by
  induction each generalizing state with
  | nil => rfl
  | cons first others hypothesis =>
    rw [List.foldlM_cons, first, List.foldl_cons]
    exact hypothesis _

/-- Steps that refuse only what fails a test leave a value of each item that passes it. -/
theorem filterMap_eq_map_filter {step : α → Option β} {change : α → β} {passes : α → Prop}
    [DecidablePred passes]
    (each : ∀ item, step item = if passes item then some (change item) else none)
    (items : List α) :
    items.filterMap step = (items.filter fun item => passes item).map change := by
  rw [← List.filterMap_eq_map, List.filterMap_filter]
  congr 1
  funext item
  rw [each]
  by_cases admitted : passes item <;> simp [admitted]

/-- Steps that refuse exactly what fails a test leave, in order, one value for each item that
passes it. -/
theorem forall₂_filter_filterMap {step : α → Option β} {passes : α → Bool} {R : α → β → Prop}
    (accepted : ∀ item, (step item).isSome = passes item)
    (related : ∀ item result, step item = some result → R item result) (items : List α) :
    List.Forall₂ R (items.filter passes) (items.filterMap step) := by
  induction items with
  | nil => exact .nil
  | cons item items hypothesis =>
    have same := accepted item
    cases stepped : step item with
    | none =>
      rw [stepped] at same
      rw [List.filter_cons_of_neg (by simp [← same]), List.filterMap_cons_none stepped]
      exact hypothesis
    | some result =>
      rw [stepped] at same
      rw [List.filter_cons_of_pos same.symm, List.filterMap_cons_some stepped]
      exact .cons (related item result stepped) hypothesis

end DebugLens
