import DebugLens.MethodInfo.Query
import DebugLens.Proofs.CustomInfo.Entries
import DebugLens.Proofs.CustomInfo.FirstRecord

/-!
# Live ranges of hoisted locals

A stored range becomes a live range unless it starts at a negative offset or its number of offsets
is negative. If ends are exclusive, these are exactly the ranges that do not end before they
start. If ends are inclusive, a range that ends right in front of its start has no offsets, which
is not a negative number of them, so it becomes a live range too, the only kind without offsets.
-/
namespace DebugLens

namespace CustomInfo

/-- The live range of a hoisted local in the bytes of a body. -/
structure StoredRange where
  /-- The first offset. -/
  start : Int32
  /-- The last offset, or the one after it. -/
  stop : Int32

namespace StoredRange

/-- The bytes of a range. -/
def encode (range : StoredRange) : Bytes :=
  Bytes.writeInt32 range.start.toInt ++ Bytes.writeInt32 range.stop.toInt

/-- A range takes eight bytes. -/
theorem length_encode (range : StoredRange) : range.encode.length = 8 := rfl

/-- A range starts at an offset and does not end before it. -/
def IsOrdered (range : StoredRange) : Prop :=
  0 ≤ range.start.toInt ∧ range.start.toInt ≤ range.stop.toInt

/-- A range ends right in front of the offset where it starts. -/
def IsCollapsed (range : StoredRange) : Prop :=
  0 ≤ range.start.toInt ∧ range.stop.toInt + 1 = range.start.toInt

instance (range : StoredRange) : Decidable range.IsOrdered := inferInstanceAs (Decidable (_ ∧ _))

instance (range : StoredRange) : Decidable range.IsCollapsed := inferInstanceAs (Decidable (_ ∧ _))

/-- The live range, given whether the end is the last offset. -/
def scope (inclusive : Bool) (range : StoredRange) : HoistedScope where
  start := range.start.toInt
  length := range.stop.toInt - range.start.toInt + if inclusive then 1 else 0

/-- The bytes of a range are read as its two ends. -/
theorem hoistedRange?_encode (range : StoredRange) :
    hoistedRange? range.encode = some ⟨range.start.toInt, range.stop.toInt⟩ := by
  obtain ⟨a, b, c, d, written, start⟩ :=
    Bytes.int32_writeInt32 range.start.le_toInt range.start.toInt_lt
  have stop := Bytes.readInt32?_writeInt32_append range.stop []
  rw [List.append_nil] at stop
  rw [encode, written]
  change (Bytes.readInt32? (Bytes.writeInt32 range.stop.toInt)).map _ = _
  rw [stop, start]
  rfl

end StoredRange

/-- A body with ranges. -/
def hoistedBody (ranges : List StoredRange) : Bytes :=
  countedBody (ranges.map StoredRange.encode)

/-- The entries of a body with ranges take eight bytes each. -/
theorem length_of_mem_map_encode {ranges : List StoredRange} :
    ∀ entry ∈ ranges.map StoredRange.encode, entry.length = 8 :=
  List.forall_mem_map.mpr fun range _ => range.length_encode

/-- The ranges of a body are read in order. -/
theorem hoistedRanges_hoistedBody {ranges : List StoredRange}
    (few : ranges.length < 0x80000000) :
    hoistedRanges (hoistedBody ranges) =
      .ok (ranges.map fun range => ⟨range.start.toInt, range.stop.toInt⟩) := by
  have holds : HoldsEntries 8 (hoistedBody ranges) (ranges.map StoredRange.encode) := by
    have behind := holdsEntries_countedBody_append length_of_mem_map_encode
      (by rwa [List.length_map]) []
    rwa [List.append_nil] at behind
  have read : readEntries 8 .hoistedCount (hoistedBody ranges) =
      .ok (ranges.map StoredRange.encode) := (readEntries_eq_ok_iff (by decide)).mpr holds
  have ends : hoistedRange? ∘ StoredRange.encode =
      some ∘ fun range => ⟨range.start.toInt, range.stop.toInt⟩ :=
    funext StoredRange.hoistedRange?_encode
  unfold hoistedRanges
  rw [← map_readEntries, read]
  change Except.ok ((ranges.map StoredRange.encode).filterMap hoistedRange?) = _
  rw [List.filterMap_map, ends, List.filterMap_eq_map]

end CustomInfo

open CustomInfo (StoredRange FirstRecord hoistedBody)

/-- The ranges of the first record become live ranges unless they start at a negative offset or
have a negative number of offsets. -/
theorem hoistedScopes_of_firstRecord {blob : Bytes} {ranges : List StoredRange}
    (first : FirstRecord blob CustomInfo.Kind.hoistedScopes.code (hoistedBody ranges))
    (inclusive : Bool) :
    hoistedScopes (some blob) inclusive =
      .ok ((ranges.filter fun range =>
        0 ≤ range.start.toInt ∧ 0 ≤ (range.scope inclusive).length).map
          (StoredRange.scope inclusive)) := by
  have few : ranges.length < 0x80000000 := by
    have bound := first.length_lt
    rw [hoistedBody, CustomInfo.length_countedBody CustomInfo.length_of_mem_map_encode,
      List.length_map] at bound
    omega
  unfold hoistedScopes
  rw [CustomInfo.findRecord?_eq_some_iff.mpr first]
  change (CustomInfo.hoistedRanges (hoistedBody ranges) >>= _) = _
  rw [CustomInfo.hoistedRanges_hoistedBody few]
  change Except.ok (List.filterMap _ _) = _
  rw [List.filterMap_map]
  congr 1
  refine filterMap_eq_map_filter (fun range => ?_) ranges
  unfold StoredRange.scope
  by_cases early : range.start.toInt < 0
  · have refused : ¬0 ≤ range.start.toInt := Int.not_le.mpr early
    simp [early, refused]
  · have admitted : 0 ≤ range.start.toInt := Int.not_lt.mp early
    by_cases negative :
        range.stop.toInt - range.start.toInt + (if inclusive then 1 else 0) < 0
    · have refused := Int.not_le.mpr negative
      simp [early, negative, refused]
    · have counted := Int.not_lt.mp negative
      simp [early, negative, admitted, counted]

/-- A range that starts at an offset has a number of offsets that is not negative exactly if it is
ordered, or its end is inclusive and it is collapsed. -/
theorem CustomInfo.StoredRange.counted_iff (range : StoredRange) (inclusive : Bool) :
    0 ≤ range.start.toInt ∧ 0 ≤ (range.scope inclusive).length ↔
      range.IsOrdered ∨ inclusive = true ∧ range.IsCollapsed := by
  unfold scope IsOrdered IsCollapsed
  cases inclusive with
  | false =>
    simp only [Bool.false_eq_true, if_false, false_and, or_false]
    omega
  | true =>
    simp only [if_true, true_and]
    omega

/-- An ordered range has an offset if its end is inclusive. -/
theorem CustomInfo.StoredRange.IsOrdered.length_pos {range : StoredRange}
    (ordered : range.IsOrdered) : 1 ≤ (range.scope true).length := by
  obtain ⟨-, forward⟩ := ordered
  unfold scope
  simp only [if_true]
  omega

/-- A collapsed range has no offset if its end is inclusive. -/
theorem CustomInfo.StoredRange.IsCollapsed.length_eq {range : StoredRange}
    (collapsed : range.IsCollapsed) : (range.scope true).length = 0 := by
  obtain ⟨-, adjacent⟩ := collapsed
  unfold scope
  simp only [if_true]
  omega

/-- If ends are inclusive, the live ranges are those of the ordered and of the collapsed ranges. -/
theorem hoistedScopes_inclusive {blob : Bytes} {ranges : List StoredRange}
    (first : FirstRecord blob CustomInfo.Kind.hoistedScopes.code (hoistedBody ranges)) :
    hoistedScopes (some blob) true =
      .ok ((ranges.filter fun range => range.IsOrdered ∨ range.IsCollapsed).map
        (StoredRange.scope true)) := by
  rw [hoistedScopes_of_firstRecord first]
  simp only [StoredRange.counted_iff, true_and]

/-- The live ranges of a record with ranges are in order those of the ordered ranges if ends are
exclusive, and those of the ordered and the collapsed ranges if ends are inclusive. So these are
those of the ordered ranges exactly if no range is collapsed. With inclusive ends an ordered range
has at least one offset and a collapsed one has none. -/
theorem hoistedScopes_exact {blob : Bytes} {ranges : List StoredRange}
    (first : FirstRecord blob CustomInfo.Kind.hoistedScopes.code (hoistedBody ranges)) :
    hoistedScopes (some blob) false =
      .ok ((ranges.filter fun range => range.IsOrdered).map (StoredRange.scope false)) ∧
    hoistedScopes (some blob) true =
      .ok ((ranges.filter fun range => range.IsOrdered ∨ range.IsCollapsed).map
        (StoredRange.scope true)) ∧
    (hoistedScopes (some blob) true =
        .ok ((ranges.filter fun range => range.IsOrdered).map (StoredRange.scope true)) ↔
      ∀ range ∈ ranges, ¬range.IsCollapsed) ∧
    ∀ range : StoredRange, (range.IsOrdered → 1 ≤ (range.scope true).length) ∧
      (range.IsCollapsed → (range.scope true).length = 0) := by
  have inclusive := hoistedScopes_inclusive first
  refine ⟨?_, inclusive, ?_, fun range =>
    ⟨StoredRange.IsOrdered.length_pos, StoredRange.IsCollapsed.length_eq⟩⟩
  · rw [hoistedScopes_of_firstRecord first]
    simp only [StoredRange.counted_iff, Bool.false_eq_true, false_and, or_false]
  · rw [inclusive]
    constructor
    · -- A collapsed range gives a live range without offsets, which no ordered one does.
      intro same range member collapsed
      have kept : range.scope true ∈ (ranges.filter fun range => range.IsOrdered ∨
          range.IsCollapsed).map (StoredRange.scope true) :=
        List.mem_map_of_mem
          (List.mem_filter.mpr ⟨member, decide_eq_true (Or.inr collapsed)⟩)
      rw [Except.ok.inj same] at kept
      obtain ⟨other, listed, scopes⟩ := List.mem_map.mp kept
      have ordered : other.IsOrdered := of_decide_eq_true (List.mem_filter.mp listed).2
      have offsets := ordered.length_pos
      rw [scopes, collapsed.length_eq] at offsets
      contradiction
    · intro upright
      congr 2
      apply List.filter_congr
      intro range member
      simp only [upright range member, or_false]

/-- Ranges in and out of order: the second one ends too early, the third one starts too early, and
the fourth one is collapsed. -/
def mixedRanges : List StoredRange := [⟨10, 19⟩, ⟨8, 2⟩, ⟨-1, 4⟩, ⟨5, 4⟩, ⟨0, 0⟩]

/-- A blob whose only record has these ranges. -/
def mixedRangesBlob : Bytes :=
  [4, 1, 0, 0, 4, 3, 0, 0, 52, 0, 0, 0, 5, 0, 0, 0, 10, 0, 0, 0, 19, 0, 0, 0, 8, 0, 0, 0,
    2, 0, 0, 0, 255, 255, 255, 255, 4, 0, 0, 0, 5, 0, 0, 0, 4, 0, 0, 0, 0, 0, 0, 0, 0, 0, 0, 0]

/-- The first record of that blob for hoisted scopes has these ranges. -/
theorem firstRecord_mixedRanges :
    FirstRecord mixedRangesBlob CustomInfo.Kind.hoistedScopes.code (hoistedBody mixedRanges) :=
  ⟨1, 0, 0, [], ⟨4, 3, 0, 0, hoistedBody mixedRanges, by decide, by decide⟩, [], by decide,
    by decide, by decide, by decide⟩

/-- Three of the five ranges are kept if ends are inclusive, one of them without offsets. -/
theorem hoistedScopes_mixedRanges :
    hoistedScopes (some mixedRangesBlob) false = .ok [⟨10, 9⟩, ⟨0, 0⟩] ∧
      hoistedScopes (some mixedRangesBlob) true = .ok [⟨10, 10⟩, ⟨5, 0⟩, ⟨0, 1⟩] := by
  obtain ⟨exclusive, inclusive, -, -⟩ := hoistedScopes_exact firstRecord_mixedRanges
  exact ⟨exclusive, inclusive⟩

/-- A range that ends before it starts may be kept. -/
theorem collapsed_range_kept :
    ¬∀ (blob : Bytes) (ranges : List StoredRange),
      FirstRecord blob CustomInfo.Kind.hoistedScopes.code (hoistedBody ranges) →
        ∀ inclusive, hoistedScopes (some blob) inclusive =
          .ok ((ranges.filter fun range => range.IsOrdered).map (StoredRange.scope inclusive)) := by
  intro dropped
  have read := hoistedScopes_inclusive firstRecord_mixedRanges
  rw [dropped _ _ firstRecord_mixedRanges true] at read
  exact absurd (Except.ok.inj read) (by decide)

end DebugLens
