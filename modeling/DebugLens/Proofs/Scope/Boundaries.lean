import DebugLens.Scope.Reuse
import DebugLens.Scope.Walk

/-!
# Boundaries of scopes

A span has two boundaries, and an offset lies before or behind each of them. Narrowing bounds by
a span keeps the offsets that lie on the same side of both boundaries as the offset it narrows
for. So the reuse span of an offset holds exactly the offsets that no boundary separates from
it, and every one of them has the same reuse span.
-/
namespace DebugLens

/-- Two offsets lie on the same side of both boundaries of a span. -/
structure Span.SameSide (span : Span) (here there : Int) : Prop where
  /-- Neither boundary at the start lies between them. -/
  start_iff : span.start ≤ there ↔ span.start ≤ here
  /-- Neither boundary at the end lies between them. -/
  stop_iff : span.stop ≤ there ↔ span.stop ≤ here

/-- A span contains the offsets from its start up to its end. -/
theorem Span.contains_iff (span : Span) (offset : Int) :
    span.contains offset ↔ span.start ≤ offset ∧ offset < span.stop := by
  simp [Span.contains]

/-- An offset in a span is not negative. -/
theorem Span.nonnegative_of_contains {span : Span} {offset : Int}
    (inside : span.contains offset) : 0 ≤ offset := by
  have bounds := (Span.contains_iff span offset).mp inside
  omega

/-- Offsets on the same side of the boundaries are both in the span or both outside. -/
theorem Span.SameSide.contains_iff {span : Span} {here there : Int}
    (same : span.SameSide here there) : span.contains there ↔ span.contains here := by
  rw [Span.contains_iff, Span.contains_iff, same.start_iff, ← Int.not_le, same.stop_iff, Int.not_le]

namespace Bounds

/-- The offset lies between the bounds. -/
def Holds (bounds : Bounds) (offset : Int) : Prop :=
  bounds.start ≤ offset ∧ offset < bounds.stop

/-- Narrowing keeps the offsets on the same side of both boundaries. -/
theorem narrow_holds_iff (bounds : Bounds) (span : Span) (here there : Int) :
    (bounds.narrow here span).Holds there ↔ bounds.Holds there ∧ span.SameSide here there := by
  have ordered := span.start_le_stop
  have sides : span.SameSide here there ↔
      ((span.start ≤ there ↔ span.start ≤ here) ∧ (span.stop ≤ there ↔ span.stop ≤ here)) :=
    ⟨fun same => ⟨same.start_iff, same.stop_iff⟩, fun same => ⟨same.1, same.2⟩⟩
  rw [sides]
  unfold narrow Holds
  split
  · dsimp only
    omega
  · split
    · dsimp only
      omega
    · dsimp only
      omega

/-- Narrowing for an offset on the same side of both boundaries gives the same bounds. -/
theorem narrow_eq_of_sameSide (bounds : Bounds) {span : Span} {here there : Int}
    (same : span.SameSide here there) : bounds.narrow there span = bounds.narrow here span := by
  have starts : there < span.start ↔ here < span.start := by
    rw [← Int.not_le, same.start_iff, Int.not_le]
  unfold narrow
  simp only [starts, same.stop_iff]

/-- Narrowing by several spans keeps the offsets on the same side of all their boundaries. -/
theorem foldl_narrow_holds_iff (spans : List Span) (bounds : Bounds) (here there : Int) :
    (spans.foldl (narrow here) bounds).Holds there ↔
      bounds.Holds there ∧ ∀ span ∈ spans, span.SameSide here there := by
  induction spans generalizing bounds with
  | nil => simp
  | cons span spans hypothesis =>
    rw [List.foldl_cons, hypothesis, narrow_holds_iff, List.forall_mem_cons, and_assoc]

/-- Narrowing for an offset on the same side of all boundaries gives the same bounds. -/
theorem foldl_narrow_eq_of_sameSide (spans : List Span) (bounds : Bounds) {here there : Int}
    (same : ∀ span ∈ spans, span.SameSide here there) :
    spans.foldl (narrow there) bounds = spans.foldl (narrow here) bounds := by
  induction spans generalizing bounds with
  | nil => rfl
  | cons span spans hypothesis =>
    rw [List.forall_mem_cons] at same
    rw [List.foldl_cons, List.foldl_cons, narrow_eq_of_sameSide bounds same.1, hypothesis _ same.2]

end Bounds

/-- A span with given ends contains the offsets between them. -/
theorem Span.contains_of_ofEnds {start stop : Int} {span : Span}
    (made : Span.ofEnds start stop = .ok span) (offset : Int) :
    span.contains offset ↔ start ≤ offset ∧ offset < stop := by
  unfold Span.ofEnds at made
  split at made
  · next ordered =>
    obtain rfl := Except.ok.inj made
    simp only [Span.contains_iff]
    omega
  · contradiction

/-- The span around an offset holds the offsets of the initial span that no boundary separates
from it. -/
theorem reuseSpanWithin_contains_iff {here : Int} {initial reuse : Span} {spans : List Span}
    (narrowed : reuseSpanWithin here initial spans = .ok reuse) (there : Int) :
    reuse.contains there ↔
      initial.contains there ∧ ∀ span ∈ spans, span.SameSide here there := by
  unfold reuseSpanWithin at narrowed
  split at narrowed
  · contradiction
  · rw [Span.contains_of_ofEnds narrowed, Span.contains_iff initial]
    exact Bounds.foldl_narrow_holds_iff spans ⟨initial.start, initial.stop⟩ here there

/-- Offsets that no boundary separates have the same span around them. -/
theorem reuseSpanWithin_eq_of_sameSide {here there : Int} (initial : Span) {spans : List Span}
    (nonnegative : 0 ≤ here) (other : 0 ≤ there)
    (same : ∀ span ∈ spans, span.SameSide here there) :
    reuseSpanWithin there initial spans = reuseSpanWithin here initial spans := by
  unfold reuseSpanWithin
  rw [if_neg (Int.not_lt.mpr other), if_neg (Int.not_lt.mpr nonnegative),
    Bounds.foldl_narrow_eq_of_sameSide spans _ same]

namespace Scope

/-- A scope contains the offsets from its start up to its end. -/
theorem contains_iff (scope : Scope) (inclusive : Bool) (offset : Int) :
    scope.contains inclusive offset ↔
      scope.start ≤ offset ∧ offset < scope.stopExclusive inclusive := by
  cases inclusive with
  | false => simp [contains, stopExclusive]
  | true =>
    rw [contains, stopExclusive, if_pos rfl, if_pos rfl, Bool.and_eq_true, decide_eq_true_iff,
      decide_eq_true_iff, Int.lt_add_one_iff]

/-- A scope that does not start before the first offset contains the offsets that its span
contains. -/
theorem contains_iff_span? {scope : Scope} {inclusive : Bool} (nonnegative : 0 ≤ scope.start)
    (offset : Int) :
    scope.contains inclusive offset ↔
      ∃ span, scope.span? inclusive = some span ∧ span.contains offset := by
  rw [contains_iff]
  cases made : Span.ofEnds scope.start (scope.stopExclusive inclusive) with
  | ok span => simp [span?, made, Except.toOption, Span.contains_of_ofEnds made]
  | error fault =>
    have disordered : scope.stopExclusive inclusive < scope.start := by
      unfold Span.ofEnds at made
      split at made
      · contradiction
      · omega
    simp only [span?, made, Except.toOption, reduceCtorEq, false_and, exists_false, iff_false]
    omega

/-- An offset is in sight of scopes if it lies in the span of one of them. -/
def InSight (scopes : List Scope) (inclusive : Bool) (offset : Int) : Prop :=
  0 ≤ offset ∧ ∃ span ∈ spans scopes inclusive, span.contains offset

instance (scopes : List Scope) (inclusive : Bool) (offset : Int) :
    Decidable (InSight scopes inclusive offset) :=
  inferInstanceAs (Decidable (_ ∧ _))

/-- The reuse span of an offset in sight is narrowed by all spans. -/
theorem reuseSpan_of_inSight {scopes : List Scope} {inclusive : Bool} {offset : Int}
    (inSight : InSight scopes inclusive offset) :
    reuseSpan scopes inclusive offset =
      reuseSpanWithin offset .unbounded (spans scopes inclusive) := by
  have found : (spans scopes inclusive).any (fun span => span.contains offset) = true :=
    List.any_eq_true.mpr inSight.2
  have nonnegative := Int.not_lt.mpr inSight.1
  simp [reuseSpan, found, nonnegative]

/-- The reuse span of an offset out of sight has no bounds. -/
theorem reuseSpan_of_not_inSight {scopes : List Scope} {inclusive : Bool} {offset : Int}
    (outOfSight : ¬InSight scopes inclusive offset) :
    reuseSpan scopes inclusive offset = .ok .unbounded := by
  have blind : offset < 0 ∨
      (spans scopes inclusive).any (fun span => span.contains offset) = false := by
    by_cases negative : offset < 0
    · exact .inl negative
    · refine .inr (Bool.eq_false_iff.mpr fun found => outOfSight ⟨Int.not_lt.mp negative, ?_⟩)
      exact List.any_eq_true.mp found
  simp only [reuseSpan, Bool.or_eq_true, decide_eq_true_eq, Bool.not_eq_true', blind, ↓reduceIte]

/-- No boundary of a scope separates two offsets. -/
def Unseparated (scopes : List Scope) (inclusive : Bool) (here there : Int) : Prop :=
  ∀ span ∈ spans scopes inclusive, span.SameSide here there

/-- The reuse span of an offset in sight reaches only offsets that no boundary separates from
it. -/
theorem unseparated_of_reuseSpan {scopes : List Scope} {inclusive : Bool} {here there : Int}
    {reuse : Span} (inSight : InSight scopes inclusive here)
    (narrowed : reuseSpan scopes inclusive here = .ok reuse) (reached : reuse.contains there) :
    Unseparated scopes inclusive here there := by
  rw [reuseSpan_of_inSight inSight] at narrowed
  exact ((reuseSpanWithin_contains_iff narrowed there).mp reached).2

/-- The reuse span of an offset in sight holds that offset, if it is one of 32 bits. -/
theorem reuseSpan_contains_self {scopes : List Scope} {inclusive : Bool} {offset : Int}
    {reuse : Span} (inSight : InSight scopes inclusive offset)
    (bounded : offset < Span.greatestOffset)
    (narrowed : reuseSpan scopes inclusive offset = .ok reuse) : reuse.contains offset := by
  rw [reuseSpan_of_inSight inSight] at narrowed
  rw [reuseSpanWithin_contains_iff narrowed, Span.contains_iff]
  exact ⟨⟨inSight.1, bounded⟩, fun span _ => ⟨Iff.rfl, Iff.rfl⟩⟩

namespace Unseparated

variable {scopes : List Scope} {inclusive : Bool} {here there : Int}

/-- What no boundary separates from an offset in sight is in sight as well. -/
theorem inSight (unseparated : Unseparated scopes inclusive here there)
    (visible : InSight scopes inclusive here) (nonnegative : 0 ≤ there) :
    InSight scopes inclusive there := by
  obtain ⟨span, listed, inside⟩ := visible.2
  exact ⟨nonnegative, span, listed, (unseparated span listed).contains_iff.mpr inside⟩

/-- Offsets in sight that no boundary separates have the same reuse span. -/
theorem reuseSpan_eq (unseparated : Unseparated scopes inclusive here there)
    (visible : InSight scopes inclusive here) (nonnegative : 0 ≤ there) :
    reuseSpan scopes inclusive there = reuseSpan scopes inclusive here := by
  rw [reuseSpan_of_inSight visible,
    reuseSpan_of_inSight (unseparated.inSight visible nonnegative)]
  exact reuseSpanWithin_eq_of_sameSide .unbounded visible.1 nonnegative unseparated

/-- A scope that does not start before the first offset contains both or neither of two offsets
that no boundary separates. -/
theorem contains_iff (unseparated : Unseparated scopes inclusive here there) {scope : Scope}
    (visited : scope ∈ scopes) (nonnegative : 0 ≤ scope.start) :
    scope.contains inclusive there ↔ scope.contains inclusive here := by
  rw [contains_iff_span? nonnegative, contains_iff_span? nonnegative]
  constructor
  · rintro ⟨span, made, inside⟩
    have listed : span ∈ spans scopes inclusive := List.mem_filterMap.mpr ⟨scope, visited, made⟩
    exact ⟨span, made, (unseparated span listed).contains_iff.mp inside⟩
  · rintro ⟨span, made, inside⟩
    have listed : span ∈ spans scopes inclusive := List.mem_filterMap.mpr ⟨scope, visited, made⟩
    exact ⟨span, made, (unseparated span listed).contains_iff.mpr inside⟩

/-- Offsets that no boundary separates lie in the same scopes, if no scope starts before the
first offset. -/
theorem containing_eq (unseparated : Unseparated scopes inclusive here there)
    (starts : ∀ scope ∈ scopes, 0 ≤ scope.start) (nonnegative : 0 ≤ here) (other : 0 ≤ there) :
    containing scopes inclusive there = containing scopes inclusive here := by
  apply List.filter_congr
  intro scope visited
  have same := unseparated.contains_iff visited (starts scope visited)
  simp only [nonnegative, other, decide_true, Bool.true_and]
  exact Bool.eq_iff_iff.mpr same

end Unseparated

/-- If no scope starts before the first offset, an offset is in sight exactly if a scope contains
it. -/
theorem inSight_iff_contains {scopes : List Scope} {inclusive : Bool} {offset : Int}
    (starts : ∀ scope ∈ scopes, 0 ≤ scope.start) (nonnegative : 0 ≤ offset) :
    InSight scopes inclusive offset ↔ ∃ scope ∈ scopes, scope.contains inclusive offset := by
  constructor
  · rintro ⟨_, span, listed, inside⟩
    obtain ⟨scope, visited, made⟩ := List.mem_filterMap.mp listed
    have contained := (contains_iff_span? (starts scope visited) offset).mpr ⟨span, made, inside⟩
    exact ⟨scope, visited, contained⟩
  · rintro ⟨scope, visited, contained⟩
    obtain ⟨span, made, inside⟩ := (contains_iff_span? (starts scope visited) offset).mp contained
    exact ⟨nonnegative, span, List.mem_filterMap.mpr ⟨scope, visited, made⟩, inside⟩

/-- No scope that starts at the first offset or later contains an offset out of sight. -/
theorem containing_eq_nil {scopes : List Scope} {inclusive : Bool} {offset : Int}
    (starts : ∀ scope ∈ scopes, 0 ≤ scope.start)
    (outOfSight : ¬InSight scopes inclusive offset) :
    containing scopes inclusive offset = [] := by
  apply List.filter_eq_nil_iff.mpr
  intro scope visited contained
  simp only [Bool.and_eq_true, decide_eq_true_eq] at contained
  exact outOfSight
    ((inSight_iff_contains starts contained.1).mpr ⟨scope, visited, contained.2⟩)

end Scope

end DebugLens
