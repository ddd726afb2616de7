import DebugLens.Proofs.CustomInfo.FirstRecord
import DebugLens.Proofs.DynamicFlags.Attribution
import DebugLens.Proofs.DynamicFlags.Buckets
import Mathlib.Data.List.Induction

/-!
# What the maps of dynamic flags say

The maps are filled bucket by bucket, so a key has the flags of the last bucket that is kept under
it. A slot above zero has those of the last valid bucket stored for it, whatever the scopes are. A
constant has those of the last valid bucket of slot zero with its name if it is the only constant of
that name and the first local in slot zero has another one, and slot zero has those of the last
valid bucket whose name is neither that of such a constant nor ambiguous.
-/
namespace DebugLens

open CustomInfo

/-! ## Filling the maps -/

namespace DynamicMaps

/-- One more bucket at the end is added to the maps of those before it. -/
theorem ofBuckets_append_singleton (buckets : List DynamicBucket) (bucket : DynamicBucket) :
    ofBuckets (buckets ++ [bucket]) = (ofBuckets buckets).add bucket :=
  List.foldl_append

/-- A slot has the flags of the last bucket in it. -/
theorem lookup_bySlot_ofBuckets (buckets : List DynamicBucket) (slot : Int) :
    (ofBuckets buckets).bySlot.lookup slot =
      ((buckets.filter fun bucket => 0 ≤ bucket.slot ∧ bucket.slot = slot).map
        DynamicBucket.flagList).getLast? := by
  induction buckets using List.reverseRecOn with
  | nil => rfl
  | append_singleton buckets bucket hypothesis =>
    rw [ofBuckets_append_singleton, add]
    by_cases constant : bucket.slot < 0
    · have outside : ¬(0 ≤ bucket.slot ∧ bucket.slot = slot) := by omega
      rw [if_pos constant, hypothesis, List.filter_append]
      simp [outside]
    · rw [if_neg constant, lookup_assign, hypothesis, List.filter_append]
      by_cases same : slot = bucket.slot
      · subst same
        have inside : 0 ≤ bucket.slot := Int.not_lt.mp constant
        simp [inside]
      · have outside : ¬(0 ≤ bucket.slot ∧ bucket.slot = slot) := by omega
        simp [outside, same]

/-- A name has the flags of the last bucket of a constant with it. -/
theorem lookup_byName_ofBuckets (buckets : List DynamicBucket) (name : Text) :
    (ofBuckets buckets).byName.lookup name =
      ((buckets.filter fun bucket => bucket.slot < 0 ∧ bucket.name = name).map
        DynamicBucket.flagList).getLast? := by
  induction buckets using List.reverseRecOn with
  | nil => rfl
  | append_singleton buckets bucket hypothesis =>
    rw [ofBuckets_append_singleton, add]
    by_cases constant : bucket.slot < 0
    · rw [if_pos constant, lookup_assign, hypothesis, List.filter_append]
      by_cases same : name = bucket.name
      · subst same
        simp [constant]
      · have other : ¬bucket.name = name := fun equal => same equal.symm
        simp [same, other]
    · rw [if_neg constant, hypothesis, List.filter_append]
      simp [constant]

/-- No key of the maps stands twice. -/
theorem nodup_ofBuckets (buckets : List DynamicBucket) :
    ((ofBuckets buckets).bySlot.map Prod.fst).Nodup ∧
      ((ofBuckets buckets).byName.map Prod.fst).Nodup := by
  induction buckets using List.reverseRecOn with
  | nil => exact ⟨List.nodup_nil, List.nodup_nil⟩
  | append_singleton buckets bucket hypothesis =>
    obtain ⟨slots, names⟩ := hypothesis
    rw [ofBuckets_append_singleton, add]
    split
    · exact ⟨slots, nodup_keys_assign _ _ names⟩
    · exact ⟨nodup_keys_assign _ _ slots, names⟩

end DynamicMaps

/-! ## The buckets of a body -/

/-- The flags of the last valid bucket of those that are selected. -/
def lastFlags? (stored : List StoredBucket) (select : StoredBucket → Prop)
    [DecidablePred select] : Option FlagList :=
  ((stored.filter fun bucket => bucket.IsValid ∧ select bucket).map
    StoredBucket.flagList).getLast?

/-- Only the selection among the valid buckets that there are matters. -/
theorem lastFlags?_congr {stored : List StoredBucket} {select other : StoredBucket → Prop}
    [DecidablePred select] [DecidablePred other]
    (same : ∀ bucket ∈ stored, bucket.IsValid → (select bucket ↔ other bucket)) :
    lastFlags? stored select = lastFlags? stored other := by
  unfold lastFlags?
  congr 2
  exact List.filter_congr fun bucket listed =>
    decide_eq_decide.mpr (and_congr_right (same bucket listed))

/-- Nothing is found if no valid bucket is selected. -/
theorem lastFlags?_eq_none {stored : List StoredBucket} {select : StoredBucket → Prop}
    [DecidablePred select] (nothing : ∀ bucket : StoredBucket, bucket.IsValid → ¬select bucket) :
    lastFlags? stored select = none := by
  have empty : (stored.filter fun bucket => bucket.IsValid ∧ select bucket) = [] := by
    rw [List.filter_eq_nil_iff]
    intro bucket _ chosen
    obtain ⟨valid, selected⟩ := of_decide_eq_true chosen
    exact nothing bucket valid selected
  unfold lastFlags?
  rw [empty]
  rfl

/-- The last flags of kept buckets are those of the last valid bucket of a body that is not dropped
and is selected as it is kept. -/
theorem getLast?_attributeAll (scopes : List Scope) (stored : List StoredBucket)
    (select : DynamicBucket → Prop) [DecidablePred select] :
    (((attributeAll scopes ((stored.filter fun bucket => bucket.IsValid).map
        StoredBucket.bucket)).filter fun bucket => select bucket).map
          DynamicBucket.flagList).getLast? =
      lastFlags? stored fun bucket =>
        ¬(bucket.slot.toInt = 0 ∧ IsAmbiguous scopes bucket.name) ∧
          select (attributed scopes bucket.bucket) := by
  unfold lastFlags?
  simp only [attributeAll_eq, List.filter_map, List.filter_filter, List.map_map]
  congr 1
  refine (congrArg (List.map _) (List.filter_congr fun bucket _ => ?_)).trans
    (List.map_congr_left fun bucket member => ?_)
  · rw [Bool.eq_iff_iff]
    simp only [Function.comp_apply, Bool.and_eq_true, decide_eq_true_eq]
    constructor
    · rintro ⟨selected, present, valid⟩
      exact ⟨valid, present, selected⟩
    · rintro ⟨valid, present, selected⟩
      exact ⟨selected, present, valid⟩
  · have valid := (of_decide_eq_true (List.mem_filter.mp member).2).1
    change (attributed scopes bucket.bucket).flagList = bucket.flagList
    rw [attributed_flagList, StoredBucket.flagList_bucket valid]

/-- The maps of the valid buckets of a body. -/
def DynamicMaps.ofStored (scopes : List Scope) (stored : List StoredBucket) : DynamicMaps :=
  ofBuckets (attributeAll scopes
    ((stored.filter fun bucket => bucket.IsValid).map StoredBucket.bucket))

/-- A slot has the flags of the last valid bucket for it that is neither dropped nor that of a lone
constant. -/
theorem lookup_bySlot_attributeAll (scopes : List Scope) (stored : List StoredBucket)
    {slot : Int} (present : 0 ≤ slot) :
    (DynamicMaps.ofStored scopes stored).bySlot.lookup slot =
      lastFlags? stored fun bucket => bucket.slot.toInt = slot ∧
        ¬(slot = 0 ∧ (IsLoneConstant scopes bucket.name ∨ IsAmbiguous scopes bucket.name)) := by
  rw [DynamicMaps.ofStored, DynamicMaps.lookup_bySlot_ofBuckets, getLast?_attributeAll]
  apply lastFlags?_congr
  intro bucket _ _
  have kept := attributed_slot_eq_iff scopes bucket.bucket present
  constructor
  · rintro ⟨clear, -, placed⟩
    obtain ⟨same, settled⟩ := kept.mp placed
    refine ⟨same, ?_⟩
    rintro ⟨rfl, lone | ambiguous⟩
    · exact settled ⟨rfl, lone⟩
    · exact clear ⟨same, ambiguous⟩
  · rintro ⟨same, free⟩
    have placed := kept.mpr ⟨same, fun taken => free ⟨taken.1, .inl taken.2⟩⟩
    refine ⟨?_, placed.symm ▸ present, placed⟩
    exact fun dropped => free ⟨same.symm.trans dropped.1, .inr dropped.2⟩

/-- A name has the flags of the last valid bucket of slot zero with it if it is that of a lone
constant, and otherwise none. -/
theorem lookup_byName_attributeAll (scopes : List Scope) (stored : List StoredBucket)
    (name : Text) :
    (DynamicMaps.ofStored scopes stored).byName.lookup name =
      lastFlags? stored fun bucket =>
        bucket.slot.toInt = 0 ∧ bucket.name = name ∧ IsLoneConstant scopes name := by
  rw [DynamicMaps.ofStored, DynamicMaps.lookup_byName_ofBuckets, getLast?_attributeAll]
  apply lastFlags?_congr
  intro bucket _ valid
  have present : 0 ≤ bucket.bucket.slot := valid.2.2
  rw [attributed_slot_neg_iff scopes present, attributed_name]
  constructor
  · rintro ⟨-, ⟨shared, lone⟩, rfl⟩
    exact ⟨shared, rfl, lone⟩
  · rintro ⟨shared, rfl, lone⟩
    exact ⟨fun dropped => lone.not_isAmbiguous dropped.2, ⟨shared, lone⟩, rfl⟩

/-! ## What the maps say -/

/-- What maps say about the buckets of a body and the names in scopes. -/
structure DynamicMaps.Describes (maps : DynamicMaps) (scopes : List Scope)
    (stored : List StoredBucket) : Prop where
  /-- A slot above zero has the flags of the last valid bucket for it. -/
  slots : ∀ slot, 0 < slot →
    maps.bySlot.lookup slot = lastFlags? stored fun bucket => bucket.slot.toInt = slot
  /-- Slot zero has those of the last valid bucket for it with any other name than that of a lone
  constant or an ambiguous one. -/
  slotZero : maps.bySlot.lookup 0 = lastFlags? stored fun bucket =>
    bucket.slot.toInt = 0 ∧ ¬IsLoneConstant scopes bucket.name ∧ ¬IsAmbiguous scopes bucket.name
  /-- A lone constant has those of the last valid bucket of slot zero with its name. -/
  constants : ∀ name, IsLoneConstant scopes name →
    maps.byName.lookup name = lastFlags? stored fun bucket =>
      bucket.slot.toInt = 0 ∧ bucket.name = name
  /-- No negative number is a slot. -/
  noSlot : ∀ slot, slot < 0 → maps.bySlot.lookup slot = none
  /-- No other name is that of a constant with flags. -/
  noConstant : ∀ name, ¬IsLoneConstant scopes name → maps.byName.lookup name = none
  /-- A slot has flags once. -/
  distinctSlots : (maps.bySlot.map Prod.fst).Nodup
  /-- A name has flags once. -/
  distinctNames : (maps.byName.map Prod.fst).Nodup

/-- The maps of the valid buckets of a body describe it. -/
theorem describes_ofBuckets (scopes : List Scope) (stored : List StoredBucket) :
    (DynamicMaps.ofStored scopes stored).Describes scopes stored := by
  obtain ⟨distinctSlots, distinctNames⟩ := DynamicMaps.nodup_ofBuckets (attributeAll scopes
    ((stored.filter fun bucket => bucket.IsValid).map StoredBucket.bucket))
  refine {
    slots := ?_, slotZero := ?_, constants := ?_, noSlot := ?_, noConstant := ?_
    distinctSlots, distinctNames }
  · intro slot positive
    have other : slot ≠ 0 := by omega
    rw [lookup_bySlot_attributeAll scopes stored (Int.le_of_lt positive)]
    simp only [other, false_and, not_false_eq_true, and_true]
  · rw [lookup_bySlot_attributeAll scopes stored (Int.le_refl 0)]
    simp only [true_and, not_or]
  · intro name lone
    rw [lookup_byName_attributeAll]
    simp only [lone, and_true]
  · intro slot negative
    have nowhere : ∀ bucket : DynamicBucket, ¬(0 ≤ bucket.slot ∧ bucket.slot = slot) := by
      intro bucket placed
      omega
    rw [DynamicMaps.ofStored, DynamicMaps.lookup_bySlot_ofBuckets]
    simp only [nowhere, decide_false, List.filter_false]
    rfl
  · intro name common
    rw [lookup_byName_attributeAll]
    exact lastFlags?_eq_none fun _ _ chosen => common chosen.2.2

/-- If the first record for dynamic flags can be decoded, it holds buckets, and whatever the scopes
are there are maps, which say of every slot and of every name what the buckets and the scopes do. -/
theorem dynamicMaps_exact {blob data : Bytes}
    (first : FirstRecord blob CustomInfo.Kind.dynamicLocals.code data)
    (decodable : ∃ buckets, CustomInfo.dynamicBuckets data = .ok buckets) (scopes : List Scope) :
    (∃ stored, HoldsBuckets data stored) ∧
      ∀ stored, HoldsBuckets data stored →
        ∃ maps, dynamicMaps (some blob) scopes = .ok maps ∧ maps.Describes scopes stored := by
  constructor
  · obtain ⟨buckets, decoded⟩ := decodable
    obtain ⟨stored, holds, -⟩ := CustomInfo.dynamicBuckets_eq_ok_iff.mp decoded
    exact ⟨stored, holds⟩
  · intro stored holds
    have found := CustomInfo.findRecord?_eq_some_iff.mpr first
    have decoded := CustomInfo.dynamicBuckets_eq_ok_iff.mpr ⟨stored, holds, rfl⟩
    refine ⟨_, ?_, describes_ofBuckets scopes stored⟩
    unfold dynamicMaps
    rw [found]
    change (CustomInfo.dynamicBuckets data >>= _) = _
    rw [decoded]
    rfl

/-- Three buckets for the name d, one of them for slot zero. -/
def namedBuckets : List StoredBucket := [namedBucket 1 2, namedBucket 2 0, namedBucket 3 2]

/-- The name of these buckets is d. -/
theorem name_of_mem_namedBuckets : ∀ bucket ∈ namedBuckets, bucket.name = [.char 'd'] := by
  have name : ∀ flagCount slot, (namedBucket flagCount slot).name = [.char 'd'] :=
    fun flagCount slot => StoredBucket.name_of_holdsName (namedBucket_holdsName flagCount slot)
  simp [namedBuckets, name]

/-- A record with these buckets. -/
def namedBucketsRecord : StoredRecord where
  version := 4
  kind := 5
  unused := 0
  padding := 0
  body := dynamicBody namedBuckets
  size_lt := by
    rw [length_dynamicBody]
    decide
  padding_le := nofun

/-- A blob with only this record. -/
def namedBucketsBlob : Bytes := globalHeader containerVersion 1 0 0 ++ namedBucketsRecord.encode

/-- The first record of that blob for dynamic flags has these buckets. -/
theorem firstRecord_namedBuckets :
    FirstRecord namedBucketsBlob Kind.dynamicLocals.code (dynamicBody namedBuckets) :=
  ⟨1, 0, 0, [], namedBucketsRecord, [], by rw [List.append_nil]; rfl, nofun, rfl, rfl⟩

/-- One scope with a constant d and another name in slot zero. -/
def scopeOfConstant : Scope :=
  .node 0 8 [{ name := [.char 'v'], slot := 0, attributes := 0 }]
    [{ name := [.char 'd'], value := .null, signature := [] }] []

/-- The bucket of slot zero is that of the constant, and the second one of slot two replaces the
first one. -/
theorem dynamicMaps_namedBuckets :
    ∃ maps, dynamicMaps (some namedBucketsBlob) [scopeOfConstant] = .ok maps ∧
      maps.bySlot.lookup 2 = some [true, false, true] ∧ maps.bySlot.lookup 1 = none ∧
      maps.byName.lookup [.char 'd'] = some [true, false] := by
  have holds : HoldsBuckets (dynamicBody namedBuckets) namedBuckets :=
    CustomInfo.holdsBuckets_dynamicBody (by decide)
  have decoded := CustomInfo.dynamicBuckets_eq_ok_iff.mpr ⟨namedBuckets, holds, rfl⟩
  obtain ⟨-, described⟩ :=
    dynamicMaps_exact firstRecord_namedBuckets ⟨_, decoded⟩ [scopeOfConstant]
  obtain ⟨maps, read, meaning⟩ := described namedBuckets holds
  have shared : (lastFlags? namedBuckets fun bucket =>
      bucket.slot.toInt = 0 ∧ bucket.name = [.char 'd']) =
        lastFlags? namedBuckets fun bucket => bucket.slot.toInt = 0 :=
    lastFlags?_congr fun bucket listed _ => and_iff_left (name_of_mem_namedBuckets bucket listed)
  refine ⟨maps, read, (meaning.slots 2 (by decide)).trans ?_,
    (meaning.slots 1 (by decide)).trans ?_,
    (meaning.constants _ (by decide)).trans (shared.trans ?_)⟩ <;> decide

end DebugLens
