import DebugLens.Proofs.Scope.LastBoundary
import DebugLens.Proofs.Scope.Preorder

/-!
# Two notions of containment

The names and constants at an offset come from the scopes that contain it, and its reuse span from
the spans of the scopes. A scope whose end lies before its start has no span and contains no
offset. A scope that starts below 0 has no span either, but it contains the offsets up to its end.
So both notions agree exactly as long as no scope of that kind contains the offset.
-/
namespace DebugLens

/-- Narrowing leaves an initial span as it is exactly if it starts behind no boundary that lies at
or before the offset and ends before none that lies behind the offset. -/
theorem reuseSpanWithin_eq_initial_iff {offset : Int} {initial : Span} {spans : List Span}
    (nonnegative : 0 ≤ offset) :
    reuseSpanWithin offset initial spans = .ok initial ↔
      ∀ boundary, IsBoundary spans boundary →
        (boundary ≤ offset → boundary ≤ initial.start) ∧
          (offset < boundary → initial.stop ≤ boundary) := by
  have least := Bounds.foldl_narrow_start_le_iff spans ⟨initial.start, initial.stop⟩ offset
  have greatest := Bounds.le_foldl_narrow_stop_iff spans ⟨initial.start, initial.stop⟩ offset
  unfold reuseSpanWithin
  rw [if_neg (Int.not_lt.mpr nonnegative)]
  dsimp only
  generalize spans.foldl (Bounds.narrow offset) ⟨initial.start, initial.stop⟩ = bounds
    at least greatest
  dsimp only at least greatest
  have notEarlier : initial.start ≤ bounds.start := ((least _).mp (Int.le_refl _)).1
  have notLater : bounds.stop ≤ initial.stop := ((greatest _).mp (Int.le_refl _)).1
  have ordered := initial.start_le_stop
  have kept : Span.ofEnds bounds.start bounds.stop = .ok initial ↔
      bounds.start ≤ initial.start ∧ initial.stop ≤ bounds.stop := by
    obtain ⟨first, last, _⟩ := initial
    dsimp only at notEarlier notLater ordered ⊢
    unfold Span.ofEnds
    split
    · simp only [Except.ok.injEq, Span.mk.injEq]
      omega
    · refine iff_of_false ?_ (by omega)
      intro accepted
      contradiction
  rw [kept, least, greatest]
  constructor
  · rintro ⟨⟨-, before⟩, -, behind⟩ boundary listed
    exact ⟨before boundary listed, behind boundary listed⟩
  · intro each
    exact ⟨⟨Int.le_refl _, fun boundary listed => (each boundary listed).1⟩,
      Int.le_refl _, fun boundary listed => (each boundary listed).2⟩

namespace Scope

/-- The scope has a span, and the span contains the offset. -/
def spanHolds (scope : Scope) (inclusive : Bool) (offset : Int) : Bool :=
  (scope.span? inclusive).any fun span => span.contains offset

/-- There is no span of a scope that starts below 0. -/
theorem span?_of_negative {scope : Scope} (inclusive : Bool) (negative : scope.start < 0) :
    scope.span? inclusive = none := by
  have disordered : ¬(0 ≤ scope.start ∧ scope.start ≤ scope.stopExclusive inclusive) :=
    fun ordered => Int.not_le.mpr negative ordered.1
  rw [span?, Span.ofEnds, dif_neg disordered]
  rfl

/-- The span of a scope contains an offset exactly if the scope contains it and does not start
below 0. -/
theorem spanHolds_iff (scope : Scope) (inclusive : Bool) (offset : Int) :
    scope.spanHolds inclusive offset ↔ 0 ≤ scope.start ∧ scope.contains inclusive offset := by
  rw [spanHolds, Option.any_eq_true]
  by_cases nonnegative : 0 ≤ scope.start
  · rw [contains_iff_span? nonnegative, and_iff_right nonnegative]
  · rw [span?_of_negative inclusive (Int.not_le.mp nonnegative)]
    exact iff_of_false nofun fun held => nonnegative held.1

variable {scopes : List Scope} {inclusive : Bool} {offset : Int}

/-- An offset is in sight exactly if the span of a scope contains it. -/
theorem inSight_iff_spanHolds :
    InSight scopes inclusive offset ↔
      0 ≤ offset ∧ ∃ scope ∈ scopes, scope.spanHolds inclusive offset := by
  simp only [InSight, spans, List.mem_filterMap, spanHolds, Option.any_eq_true]
  refine and_congr_right fun _ => ⟨?_, ?_⟩
  · rintro ⟨span, ⟨scope, visited, made⟩, inside⟩
    exact ⟨scope, visited, span, made, inside⟩
  · rintro ⟨scope, visited, span, made, inside⟩
    exact ⟨span, ⟨scope, visited, made⟩, inside⟩

/-- An offset is in sight exactly if a scope that does not start below 0 contains it. -/
theorem inSight_iff_containing :
    InSight scopes inclusive offset ↔
      ∃ scope ∈ containing scopes inclusive offset, 0 ≤ scope.start := by
  simp only [inSight_iff_spanHolds, spanHolds_iff, containing, List.mem_filter, Bool.and_eq_true,
    decide_eq_true_eq]
  constructor
  · rintro ⟨nonnegative, scope, visited, starts, inside⟩
    exact ⟨scope, ⟨visited, nonnegative, inside⟩, starts⟩
  · rintro ⟨scope, ⟨visited, nonnegative, inside⟩, starts⟩
    exact ⟨nonnegative, scope, visited, starts, inside⟩

/-- The scopes whose spans contain an offset are those that contain it and do not start below 0. -/
theorem filter_spanHolds (nonnegative : 0 ≤ offset) :
    scopes.filter (·.spanHolds inclusive offset) =
      (containing scopes inclusive offset).filter fun scope => 0 ≤ scope.start := by
  rw [containing, List.filter_filter]
  apply List.filter_congr
  intro scope _
  rw [Bool.eq_iff_iff, spanHolds_iff]
  simp [nonnegative]

/-- An offset out of sight, and one that no boundary narrows the unbounded span for, has a reuse
span without bounds. -/
theorem reuseSpan_eq_unbounded_iff :
    reuseSpan scopes inclusive offset = .ok .unbounded ↔
      ¬InSight scopes inclusive offset ∨
        ∀ boundary, IsBoundary (spans scopes inclusive) boundary →
          (boundary ≤ offset → boundary ≤ 0) ∧
            (offset < boundary → Span.greatestOffset ≤ boundary) := by
  by_cases inSight : InSight scopes inclusive offset
  · rw [reuseSpan_of_inSight inSight, reuseSpanWithin_eq_initial_iff inSight.1]
    exact (or_iff_right (not_not_intro inSight)).symm
  · exact iff_of_true (reuseSpan_of_not_inSight inSight) (.inl inSight)

/-- The scopes whose spans contain an offset are those that contain it, apart from the ones that
start below 0. So all are the same exactly if none of those starts there, and the offset is out of
sight exactly if all of them do: both are none, or one of them does not. Out of sight the reuse
span has no bounds, in sight it is the unbounded span narrowed by the boundaries, which has no
bounds either if no boundary lies in its interior. -/
theorem spanned_scopes_exact (root : Scope) (inclusive : Bool) (offset : Int)
    (nonnegative : 0 ≤ offset) :
    ∃ scopes found, walk (some root) = scopes ∧ containing scopes inclusive offset = found ∧
      scopes.filter (·.spanHolds inclusive offset) =
        found.filter (fun scope => 0 ≤ scope.start) ∧
      (scopes.filter (·.spanHolds inclusive offset) = found ↔ ∀ scope ∈ found, 0 ≤ scope.start) ∧
      (¬InSight scopes inclusive offset ↔ ∀ scope ∈ found, scope.start < 0) ∧
      ((¬InSight scopes inclusive offset ↔ found = []) ↔
        found = [] ∨ ∃ scope ∈ found, 0 ≤ scope.start) ∧
      reuseSpan scopes inclusive offset =
        (if InSight scopes inclusive offset then
          reuseSpanWithin offset .unbounded (spans scopes inclusive)
        else .ok .unbounded) ∧
      (reuseSpan scopes inclusive offset = .ok .unbounded ↔
        ¬InSight scopes inclusive offset ∨
          ∀ boundary, IsBoundary (spans scopes inclusive) boundary →
            (boundary ≤ offset → boundary ≤ 0) ∧
              (offset < boundary → Span.greatestOffset ≤ boundary)) := by
  refine ⟨_, _, rfl, rfl, filter_spanHolds nonnegative, ?_, ?_, ?_, ?_,
    reuseSpan_eq_unbounded_iff⟩
  · rw [filter_spanHolds nonnegative, List.filter_eq_self]
    simp only [decide_eq_true_eq]
  · rw [inSight_iff_containing]
    simp only [not_exists, not_and, Int.not_le]
  · rw [inSight_iff_containing]
    by_cases spanned : ∃ scope ∈ containing (walk (some root)) inclusive offset, 0 ≤ scope.start
    · have contained : containing (walk (some root)) inclusive offset ≠ [] := by
        obtain ⟨scope, listed, -⟩ := spanned
        exact List.ne_nil_of_mem listed
      exact iff_of_true (iff_of_false (not_not_intro spanned) contained) (.inr spanned)
    · simp only [spanned, not_false_eq_true, true_iff, or_false]
  · split
    · next inSight => exact reuseSpan_of_inSight inSight
    · next outOfSight => exact reuseSpan_of_not_inSight outOfSight

/-- A scope that starts below 0, with one inside that does not. -/
def earlyScope : Scope := .node (-5) 10 [] [] [.node 2 6 [] [] []]

/-- At an offset in both, only the inner one has a span that contains it. -/
theorem spanned_scopes_early :
    (0 : Int) ≤ 3 ∧
      ∃ scopes found, walk (some earlyScope) = scopes ∧ containing scopes false 3 = found ∧
        found.map start = [-5, 2] ∧
        (scopes.filter (·.spanHolds false 3)).map start = [2] ∧
        scopes.filter (·.spanHolds false 3) ≠ found ∧ InSight scopes false 3 := by
  obtain ⟨scopes, found, walked, contained, spanned, same, blind, -⟩ :=
    spanned_scopes_exact earlyScope false 3 (by decide)
  have both : found = [earlyScope, .node 2 6 [] [] []] := by
    rw [← contained, ← walked]
    cbv
  refine ⟨by decide, scopes, found, walked, contained, by rw [both]; rfl, ?_, ?_, ?_⟩
  · rw [spanned, both]
    rfl
  · rw [ne_eq, same, both]
    decide
  · rw [← Decidable.not_not (p := InSight scopes false 3), blind, both]
    decide

/-- Behind the inner scope the outer one still contains the offset, but the reuse span is that of
an offset outside all scopes. -/
theorem early_scope_unspanned :
    (walk (some earlyScope)).filter (·.spanHolds false 8) ≠
        containing (walk (some earlyScope)) false 8 ∧
      ¬InSight (walk (some earlyScope)) false 8 ∧
      reuseSpan (walk (some earlyScope)) false 8 = .ok .unbounded ∧
      containing (walk (some earlyScope)) false 8 = [earlyScope] := by
  have visited : walk (some earlyScope) = [earlyScope, .node 2 6 [] [] []] := by cbv
  rw [visited]
  have outOfSight : ¬InSight [earlyScope, .node 2 6 [] [] []] false 8 := by decide
  have contained : containing [earlyScope, .node 2 6 [] [] []] false 8 = [earlyScope] := by rfl
  have unspanned : [earlyScope, .node 2 6 [] [] []].filter (·.spanHolds false 8) = [] := by rfl
  refine ⟨?_, outOfSight, reuseSpan_of_not_inSight outOfSight, contained⟩
  rw [unspanned, contained]
  exact (List.cons_ne_nil _ _).symm

end Scope

end DebugLens
