import DebugLens.Proofs.Scope.Boundaries
import Mathlib.Order.Bounds.Basic

/-!
# The last boundary before an offset

Narrowing moves the start of the bounds up to the last boundary at or before the offset and their
end down to the first boundary behind it. The start stays at or before the offset and all later
boundaries stay behind it, so the bounds get out of order only by the end they began with: the
last boundary lies behind the largest 32-bit offset.
-/
namespace DebugLens

/-- An offset at which one of some spans starts or ends. -/
def IsBoundary (spans : List Span) (boundary : Int) : Prop :=
  ∃ span ∈ spans, boundary = span.start ∨ boundary = span.stop

/-- The boundaries of a list of spans are those of its first span and those of the others. -/
theorem isBoundary_cons {span : Span} {spans : List Span} {boundary : Int} :
    IsBoundary (span :: spans) boundary ↔
      (boundary = span.start ∨ boundary = span.stop) ∨ IsBoundary spans boundary := by
  simp only [IsBoundary, List.mem_cons, or_and_right, exists_or, exists_eq_left]

namespace Bounds

/-- The start of narrowed bounds is the least number not below the former start and the boundaries
at or before the offset. -/
theorem foldl_narrow_start_le_iff (spans : List Span) (bounds : Bounds) (offset limit : Int) :
    (spans.foldl (narrow offset) bounds).start ≤ limit ↔
      bounds.start ≤ limit ∧ ∀ boundary, IsBoundary spans boundary → boundary ≤ offset →
        boundary ≤ limit := by
  induction spans generalizing bounds with
  | nil => simp [IsBoundary]
  | cons span spans hypothesis =>
    have ordered := span.start_le_stop
    have one : (bounds.narrow offset span).start ≤ limit ↔
        bounds.start ≤ limit ∧ ((span.start : Int) ≤ offset → (span.start : Int) ≤ limit) ∧
          ((span.stop : Int) ≤ offset → (span.stop : Int) ≤ limit) := by
      unfold narrow
      split
      · dsimp only
        omega
      · split
        · dsimp only
          omega
        · dsimp only
          omega
    rw [List.foldl_cons, hypothesis, one]
    simp only [isBoundary_cons, or_imp, forall_and, forall_eq, and_assoc]

/-- The end of narrowed bounds is the greatest number not above the former end and the boundaries
behind the offset. -/
theorem le_foldl_narrow_stop_iff (spans : List Span) (bounds : Bounds) (offset limit : Int) :
    limit ≤ (spans.foldl (narrow offset) bounds).stop ↔
      limit ≤ bounds.stop ∧ ∀ boundary, IsBoundary spans boundary → offset < boundary →
        limit ≤ boundary := by
  induction spans generalizing bounds with
  | nil => simp [IsBoundary]
  | cons span spans hypothesis =>
    have ordered := span.start_le_stop
    have one : limit ≤ (bounds.narrow offset span).stop ↔
        limit ≤ bounds.stop ∧ (offset < span.start → limit ≤ span.start) ∧
          (offset < span.stop → limit ≤ span.stop) := by
      unfold narrow
      split
      · dsimp only
        omega
      · split
        · dsimp only
          omega
        · dsimp only
          omega
    rw [List.foldl_cons, hypothesis, one]
    simp only [isBoundary_cons, or_imp, forall_and, forall_eq, and_assoc]

end Bounds

/-- The last boundary of some spans at or before an offset. -/
def IsLastBoundary (spans : List Span) (offset last : Int) : Prop :=
  IsGreatest {boundary | IsBoundary spans boundary ∧ boundary ≤ offset} last

namespace Bounds

variable (spans : List Span) (bounds : Bounds) {offset : Int}

/-- Narrowing that moves the start moves it to the last boundary. -/
theorem isLastBoundary_of_moved
    (moved : bounds.start < (spans.foldl (narrow offset) bounds).start) :
    IsLastBoundary spans offset (spans.foldl (narrow offset) bounds).start := by
  have least := foldl_narrow_start_le_iff spans bounds offset
  generalize (spans.foldl (narrow offset) bounds).start = start at moved least ⊢
  have above := ((least start).mp (Int.le_refl start)).2
  -- One less is below some boundary, and so that boundary is the start.
  have attained : ∃ boundary, IsBoundary spans boundary ∧ boundary ≤ offset ∧ start ≤ boundary := by
    by_contra unattained
    push Not at unattained
    have less : start ≤ start - 1 :=
      (least (start - 1)).mpr ⟨by omega, fun boundary listed before => by
        have := unattained boundary listed before
        omega⟩
    omega
  obtain ⟨boundary, listed, before, reached⟩ := attained
  obtain rfl := Int.le_antisymm (above boundary listed before) reached
  exact ⟨⟨listed, before⟩, fun other known => above other known.1 known.2⟩

/-- Narrowing moves the start to the last boundary, if that lies behind the former start. -/
theorem start_eq_of_isLastBoundary {last : Int} (isLast : IsLastBoundary spans offset last)
    (behind : bounds.start ≤ last) : (spans.foldl (narrow offset) bounds).start = last := by
  have least := foldl_narrow_start_le_iff spans bounds offset
  apply Int.le_antisymm
  · exact (least last).mpr ⟨behind, fun boundary listed before => isLast.2 ⟨listed, before⟩⟩
  · exact ((least _).mp (Int.le_refl _)).2 last isLast.1.1 isLast.1.2

/-- Narrowing keeps the end if no boundary behind the offset lies before it. -/
theorem stop_eq_of_le (unreached : bounds.stop ≤ offset) :
    (spans.foldl (narrow offset) bounds).stop = bounds.stop := by
  have greatest := le_foldl_narrow_stop_iff spans bounds offset
  apply Int.le_antisymm
  · exact ((greatest _).mp (Int.le_refl _)).1
  · exact (greatest bounds.stop).mpr ⟨Int.le_refl _, fun boundary _ behind => by omega⟩

/-- Bounds that begin in order and before the offset get out of order exactly if the last boundary
lies behind their end. They then start at that boundary and keep their end. -/
theorem foldl_narrow_disordered_iff (ordered : bounds.start ≤ bounds.stop)
    (begun : bounds.start ≤ offset) (start stop : Int) :
    spans.foldl (narrow offset) bounds = ⟨start, stop⟩ ∧ stop < start ↔
      stop = bounds.stop ∧ bounds.stop < start ∧ IsLastBoundary spans offset start := by
  constructor
  · rintro ⟨narrowed, disordered⟩
    have greatest := le_foldl_narrow_stop_iff spans bounds offset start
    have before := (foldl_narrow_start_le_iff spans bounds offset offset).mpr
      ⟨begun, fun _ _ earlier => earlier⟩
    rw [narrowed] at greatest before
    dsimp only at greatest before
    -- No boundary behind the offset is in the way of the start, so the former end is.
    have behind : bounds.stop < start := by
      by_contra reached
      have inOrder : start ≤ stop := greatest.mpr ⟨Int.not_lt.mp reached, fun boundary _ later =>
        Int.le_of_lt (Int.lt_of_le_of_lt before later)⟩
      omega
    have isLast : bounds.start < _ → IsLastBoundary spans offset _ :=
      isLastBoundary_of_moved spans bounds
    have kept : bounds.stop ≤ offset → _ := stop_eq_of_le spans bounds
    rw [narrowed] at isLast kept
    have unreached : bounds.stop ≤ offset := by omega
    have moved : bounds.start < start := by omega
    exact ⟨(kept unreached :), behind, isLast moved⟩
  · rintro ⟨rfl, behind, isLast⟩
    have moved := start_eq_of_isLastBoundary spans bounds isLast (by omega)
    have unreached : bounds.stop ≤ offset := Int.le_trans (Int.le_of_lt behind) isLast.1.2
    have kept := stop_eq_of_le spans bounds unreached
    refine ⟨?_, behind⟩
    cases narrowed : spans.foldl (narrow offset) bounds with
    | mk first last =>
      rw [narrowed] at moved kept
      rw [show first = start from moved, show last = bounds.stop from kept]

end Bounds

/-- There is no span with ends that are out of order. -/
theorem Span.ofEnds_eq_error_iff {start stop : Int} {fault : SpanError} :
    Span.ofEnds start stop = .error fault ↔
      ¬(0 ≤ start ∧ start ≤ stop) ∧ fault = .disordered start stop := by
  unfold Span.ofEnds
  split
  · next ordered =>
    refine iff_of_false (fun refused => ?_) fun disordered => disordered.1 ordered
    contradiction
  · next disordered =>
    rw [Except.error.injEq, eq_comm]
    exact ⟨fun same => ⟨disordered, same⟩, fun same => same.2⟩

/-- There is no span around an offset behind the start of the initial span exactly if the last
boundary lies behind the end of the initial span. -/
theorem reuseSpanWithin_eq_error_iff {offset : Int} {initial : Span} {spans : List Span}
    {fault : SpanError} (begun : initial.start ≤ offset) :
    reuseSpanWithin offset initial spans = .error fault ↔
      ∃ last, IsLastBoundary spans offset last ∧ initial.stop < last ∧
        fault = .disordered last initial.stop := by
  have ordered : (initial.start : Int) ≤ initial.stop := Int.ofNat_le.mpr initial.start_le_stop
  have above := ((Bounds.foldl_narrow_start_le_iff spans ⟨initial.start, initial.stop⟩ offset
    _).mp (Int.le_refl _)).1
  have disordered := Bounds.foldl_narrow_disordered_iff spans ⟨initial.start, initial.stop⟩
    ordered begun
  unfold reuseSpanWithin
  rw [if_neg (by omega)]
  dsimp only at above disordered ⊢
  cases narrowed : spans.foldl (Bounds.narrow offset) ⟨initial.start, initial.stop⟩ with
  | mk start stop =>
    rw [narrowed] at above
    rw [Span.ofEnds_eq_error_iff]
    constructor
    · rintro ⟨unordered, rfl⟩
      have late : stop < start := by
        dsimp only at above unordered
        omega
      obtain ⟨rfl, behind, isLast⟩ := (disordered start stop).mp ⟨narrowed, late⟩
      exact ⟨start, isLast, behind, rfl⟩
    · rintro ⟨last, isLast, behind, rfl⟩
      have ends := ((disordered last initial.stop).mpr ⟨rfl, behind, isLast⟩).1
      obtain ⟨rfl, rfl⟩ := Bounds.mk.inj (narrowed.symm.trans ends)
      exact ⟨fun inOrder => Int.not_le.mpr behind inOrder.2, rfl⟩

/-- An offset has no reuse span exactly if it is in sight and the last boundary before it lies
behind the largest offset of 32 bits. -/
theorem Scope.reuseSpan_eq_error_iff {scopes : List Scope} {inclusive : Bool} {offset : Int}
    {fault : SpanError} :
    reuseSpan scopes inclusive offset = .error fault ↔
      InSight scopes inclusive offset ∧ ∃ last,
        IsLastBoundary (spans scopes inclusive) offset last ∧ Span.greatestOffset < last ∧
          fault = .disordered last Span.greatestOffset := by
  by_cases inSight : InSight scopes inclusive offset
  · rw [reuseSpan_of_inSight inSight, reuseSpanWithin_eq_error_iff inSight.1]
    exact (and_iff_right inSight).symm
  · rw [reuseSpan_of_not_inSight inSight]
    exact iff_of_false nofun fun refused => inSight refused.1

end DebugLens
