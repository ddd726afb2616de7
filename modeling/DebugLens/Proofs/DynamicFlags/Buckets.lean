import DebugLens.DynamicFlags
import DebugLens.Proofs.CustomInfo.Entries
import DebugLens.Proofs.Text.Utf16
import Mathlib.Data.Set.List

/-!
# Stored buckets

A bucket has bytes for its flags, a count of them, a slot and a field for its name. It is valid if
its flags are that many and its slot is one. What is read from a body are the valid ones among
the buckets that are completely there, in order, each on its own: its flags are its first bytes
up to the count, each of them set if its byte is not zero, and its name is the text that its field
holds in front of the first zero unit.
-/
namespace DebugLens.CustomInfo

/-- The size of the field for the name of a bucket. -/
def nameFieldSize : Nat := 128

/-- A bucket in the bytes of a body. -/
structure StoredBucket where
  /-- A byte for each flag there can be. -/
  flags : Vector UInt8 flagBytes
  /-- How many flags there are. -/
  flagCount : Int32
  /-- The slot. -/
  slot : Int32
  /-- The field for the name. -/
  nameField : Vector UInt8 nameFieldSize

/-- A bit of the flags is set exactly if the byte in its place is not zero. -/
theorem bitsOf_bit {bytes : Bytes} {index : Nat} (inside : index < bytes.length) :
    bitsOf bytes / twoTo index % 2 = if bytes[index] = 0 then 0 else 1 := by
  induction bytes generalizing index with
  | nil => exact absurd inside (Nat.not_lt_zero index)
  | cons byte bytes hypothesis =>
    have digit : (if byte = 0 then 0 else 1) < 2 := by split <;> decide
    cases index with
    | zero =>
      have whole : bitsOf (byte :: bytes) / twoTo 0 = bitsOf (byte :: bytes) := Nat.div_one _
      rw [whole, bitsOf, Nat.add_mul_mod_self_left, Nat.mod_eq_of_lt digit]
      rfl
    | succ index =>
      have halved : bitsOf (byte :: bytes) / twoTo (index + 1) = bitsOf bytes / twoTo index := by
        rw [twoTo_succ, ← Nat.div_div_eq_div_mul, bitsOf, Nat.add_mul_div_left _ _ (by decide),
          Nat.div_eq_of_lt digit, Nat.zero_add]
      rw [halved, hypothesis (Nat.lt_of_succ_lt_succ inside)]
      rfl

namespace StoredBucket

/-- The bytes of a bucket. -/
def encode (stored : StoredBucket) : Bytes :=
  stored.flags.toList ++ (Bytes.writeInt32 stored.flagCount.toInt ++
    (Bytes.writeInt32 stored.slot.toInt ++ stored.nameField.toList))

/-- The count of flags and the slot of a bucket are in range. -/
def IsValid (stored : StoredBucket) : Prop :=
  0 ≤ stored.flagCount.toInt ∧ stored.flagCount.toInt ≤ flagBytes ∧ 0 ≤ stored.slot.toInt

instance (stored : StoredBucket) : Decidable stored.IsValid :=
  inferInstanceAs (Decidable (_ ∧ _ ∧ _))

/-- The flags of a bucket, the first one first. -/
def flagList (stored : StoredBucket) : FlagList :=
  (stored.flags.toList.take stored.flagCount.toInt.toNat).map fun byte => byte ≠ 0

/-- The name of a bucket. -/
def name (stored : StoredBucket) : Text := .ofString (Text.readUtf16 stored.nameField.toList)

/-- What is read from a bucket. -/
def bucket (stored : StoredBucket) : DynamicBucket where
  flagCount := stored.flagCount.toInt
  flags := bitsOf stored.flags.toList
  slot := stored.slot.toInt
  name := stored.name

/-- All buckets have the same size. -/
theorem length_encode (stored : StoredBucket) : stored.encode.length = bucketSize := by
  unfold encode
  rw [List.length_append, List.length_append, List.length_append, Bytes.length_writeInt32,
    Bytes.length_writeInt32, Vector.length_toList, Vector.length_toList]
  rfl

/-- Bytes of the size of a bucket are those of one. -/
theorem exists_encode {piece : Bytes} (width : piece.length = bucketSize) :
    ∃ stored : StoredBucket, stored.encode = piece := by
  obtain ⟨flagCount, behindCount, counted⟩ : ∃ (flagCount : Int32) (behind : Bytes),
      piece.drop flagBytes = Bytes.writeInt32 flagCount.toInt ++ behind := by
    apply Bytes.exists_writeInt32_append
    rw [List.length_drop, width]
    decide
  have left : behindCount.length = 4 + nameFieldSize := by
    have lengths := congrArg List.length counted
    rw [List.length_drop, width, List.length_append, Bytes.length_writeInt32] at lengths
    have room : bucketSize - flagBytes = 4 + (4 + nameFieldSize) := rfl
    omega
  obtain ⟨slot, nameField, rfl⟩ := Bytes.exists_writeInt32_append
    (show 4 ≤ behindCount.length by rw [left]; decide)
  have flagWidth : (piece.take flagBytes).length = flagBytes :=
    List.length_take_of_le (by rw [width]; decide)
  have nameWidth : nameField.length = nameFieldSize := by
    rw [List.length_append, Bytes.length_writeInt32] at left
    omega
  refine ⟨{
    flags := ⟨(piece.take flagBytes).toArray, flagWidth⟩
    flagCount, slot
    nameField := ⟨nameField.toArray, nameWidth⟩ }, ?_⟩
  change piece.take flagBytes ++ (Bytes.writeInt32 flagCount.toInt ++
    (Bytes.writeInt32 slot.toInt ++ nameField)) = piece
  rw [← counted, List.take_append_drop]

/-- What is read from the bytes of a bucket, if it is valid. -/
theorem bucket?_encode (stored : StoredBucket) :
    bucket? stored.encode = if stored.IsValid then some stored.bucket else none := by
  have behindFlags : stored.encode.drop flagBytes =
      Bytes.writeInt32 stored.flagCount.toInt ++
        (Bytes.writeInt32 stored.slot.toInt ++ stored.nameField.toList) :=
    List.drop_left' Vector.length_toList
  have behindCount : stored.encode.drop (flagBytes + 4) =
      Bytes.writeInt32 stored.slot.toInt ++ stored.nameField.toList := by
    rw [← List.drop_drop, behindFlags, List.drop_left' (Bytes.length_writeInt32 _)]
  have behindSlot : stored.encode.drop (flagBytes + 8) = stored.nameField.toList := by
    rw [show flagBytes + 8 = flagBytes + 4 + 4 by rfl, ← List.drop_drop, behindCount,
      List.drop_left' (Bytes.length_writeInt32 _)]
  have front : stored.encode.take flagBytes = stored.flags.toList :=
    List.take_left' Vector.length_toList
  unfold bucket?
  rw [behindFlags, behindCount, behindSlot, front, Bytes.readInt32?_writeInt32_append,
    Bytes.readInt32?_writeInt32_append]
  simp only [bind, Option.bind]
  by_cases valid : stored.IsValid
  · have admitted : ¬((stored.flagCount.toInt < 0 || stored.flagCount.toInt > flagBytes ||
        stored.slot.toInt < 0) = true) := by
      obtain ⟨least, greatest, slot⟩ := valid
      simp only [Bool.or_eq_true, decide_eq_true_eq]
      omega
    rw [if_pos valid, if_neg admitted]
    rfl
  · have refused : (stored.flagCount.toInt < 0 || stored.flagCount.toInt > flagBytes ||
        stored.slot.toInt < 0) = true := by
      unfold IsValid at valid
      simp only [Bool.or_eq_true, decide_eq_true_eq]
      omega
    rw [if_neg valid, if_pos refused]

/-- The flags that are read from a valid bucket are its own. -/
theorem flagList_bucket {stored : StoredBucket} (valid : stored.IsValid) :
    stored.bucket.flagList = stored.flagList := by
  obtain ⟨-, greatest, -⟩ := valid
  have width : stored.flags.toList.length = flagBytes := Vector.length_toList
  have read : stored.bucket.flagList = (List.range stored.flagCount.toInt.toNat).map fun index =>
      decide (((bitsOf stored.flags.toList : Nat) : Int) / (twoTo index : Nat) % 2 = 1) := rfl
  rw [read, flagList]
  apply List.ext_getElem
  · rw [List.length_map, List.length_range, List.length_map, List.length_take, width]
    omega
  · intro index inside _
    rw [List.length_map, List.length_range] at inside
    have place : index < stored.flags.toList.length := by omega
    have bit : ((bitsOf stored.flags.toList : Nat) : Int) / (twoTo index : Nat) % 2 =
        ((if stored.flags.toList[index] = 0 then 0 else 1 : Nat) : Int) :=
      congrArg Int.ofNat (bitsOf_bit place)
    rw [List.getElem_map, List.getElem_range, bit, List.getElem_map, List.getElem_take]
    by_cases zero : stored.flags.toList[index] = 0
    · rw [if_pos zero, zero]
      rfl
    · rw [if_neg zero, decide_eq_true zero]
      rfl

/-- The flags are as many as the bucket says. -/
theorem length_flagList {stored : StoredBucket} (valid : stored.IsValid) :
    (stored.flagList.length : Int) = stored.flagCount.toInt := by
  obtain ⟨least, greatest, -⟩ := valid
  unfold flagList
  rw [List.length_map, List.length_take, Vector.length_toList]
  omega

/-- A flag is set exactly if its byte is not zero. -/
theorem getElem?_flagList {stored : StoredBucket} {index : Fin flagBytes}
    (inside : (index : Int) < stored.flagCount.toInt) :
    stored.flagList[(index : Nat)]? = some (decide (stored.flags[index] ≠ 0)) := by
  unfold flagList
  rw [List.getElem?_map, List.getElem?_take_of_lt (by omega), Vector.getElem?_toList]
  simp

/-- A bucket holds a text as its name: the field is the written text with zeros behind it. -/
def HoldsName (stored : StoredBucket) (text : String) : Prop :=
  '\x00' ∉ text.toList ∧
    ∃ padding, stored.nameField.toList = Text.writeUtf16 text ++ List.replicate padding 0

/-- The name that a bucket holds is its name. -/
theorem name_of_holdsName {stored : StoredBucket} {text : String}
    (holds : stored.HoldsName text) : stored.name = Text.ofString text := by
  obtain ⟨solid, padding, field⟩ := holds
  unfold name
  rw [field, Text.readUtf16_writeUtf16_append solid (Text.endsText_replicate padding)]

end StoredBucket

/-- A body consists of a count, buckets and a rest. The buckets are as many as the count says, or
fewer because the rest is less than one more. -/
def HoldsBuckets (data : Bytes) (stored : List StoredBucket) : Prop :=
  HoldsEntries bucketSize data (stored.map StoredBucket.encode)

/-- The buckets that are read from a body are the valid ones of those that it holds. -/
theorem dynamicBuckets_eq_ok_iff {data : Bytes} {buckets : List DynamicBucket} :
    dynamicBuckets data = .ok buckets ↔
      ∃ stored, HoldsBuckets data stored ∧
        (stored.filter fun bucket => bucket.IsValid).map StoredBucket.bucket = buckets := by
  have read : ∀ stored : List StoredBucket,
      (stored.map StoredBucket.encode).filterMap bucket? =
        (stored.filter fun bucket => bucket.IsValid).map StoredBucket.bucket := by
    intro stored
    rw [List.filterMap_map]
    exact filterMap_eq_map_filter StoredBucket.bucket?_encode stored
  unfold dynamicBuckets
  rw [← map_readEntries, map_eq_ok_iff]
  constructor
  · rintro ⟨entries, whole, rfl⟩
    have holds := (readEntries_eq_ok_iff (by decide)).mp whole
    have ⟨_, _, _, widths, _⟩ := holds
    have encoded : entries ∈ Set.range (List.map StoredBucket.encode) := by
      rw [Set.range_list_map]
      exact fun entry member => StoredBucket.exists_encode (widths entry member)
    obtain ⟨stored, rfl⟩ := encoded
    exact ⟨stored, holds, (read stored).symm⟩
  · rintro ⟨stored, holds, rfl⟩
    exact ⟨_, (readEntries_eq_ok_iff (by decide)).mpr holds, read stored⟩

/-- A body with buckets. -/
def dynamicBody (stored : List StoredBucket) : Bytes :=
  countedBody (stored.map StoredBucket.encode)

/-- The entries of a body with buckets have the size of a bucket. -/
theorem StoredBucket.length_of_mem_map_encode {stored : List StoredBucket} :
    ∀ entry ∈ stored.map encode, entry.length = bucketSize :=
  List.forall_mem_map.mpr fun bucket _ => bucket.length_encode

/-- The length of a body with buckets. -/
theorem length_dynamicBody (stored : List StoredBucket) :
    (dynamicBody stored).length = 4 + stored.length * bucketSize := by
  rw [dynamicBody, length_countedBody StoredBucket.length_of_mem_map_encode, List.length_map]

/-- A body with buckets holds them. -/
theorem holdsBuckets_dynamicBody {stored : List StoredBucket}
    (few : stored.length < 0x80000000) : HoldsBuckets (dynamicBody stored) stored := by
  have behind := holdsEntries_countedBody_append StoredBucket.length_of_mem_map_encode
    (by rwa [List.length_map]) []
  rwa [List.append_nil] at behind

/-- From a body with buckets that is cut off behind its count, the valid ones of the buckets in
front of the cut are read in order. A valid bucket is read with as many flags as it says, each of
them set exactly if its byte is not zero, with its slot, and with the text that it holds as its
name. -/
theorem dynamicBuckets_cut {stored : List StoredBucket} (few : stored.length < 0x80000000)
    {length : Nat} (long : 4 ≤ length) :
    dynamicBuckets ((dynamicBody stored).take length) =
      .ok (((stored.take ((length - 4) / bucketSize)).filter fun bucket => bucket.IsValid).map
        StoredBucket.bucket) ∧
    ∀ bucket ∈ stored, bucket.IsValid →
      (bucket.bucket.flagList.length : Int) = bucket.flagCount.toInt ∧
      (∀ index : Fin flagBytes, (index : Int) < bucket.flagCount.toInt →
        bucket.bucket.flagList[(index : Nat)]? = some (decide (bucket.flags[index] ≠ 0))) ∧
      bucket.bucket.flagCount = bucket.flagCount.toInt ∧
      bucket.bucket.slot = bucket.slot.toInt ∧
      ∀ text, bucket.HoldsName text → bucket.bucket.name = Text.ofString text := by
  constructor
  · have cut := holdsEntries_take_countedBody (by decide)
      StoredBucket.length_of_mem_map_encode (by rwa [List.length_map]) long
    rw [← List.map_take] at cut
    exact dynamicBuckets_eq_ok_iff.mpr ⟨_, cut, rfl⟩
  · intro bucket _ valid
    rw [StoredBucket.flagList_bucket valid]
    exact ⟨StoredBucket.length_flagList valid,
      fun _ inside => StoredBucket.getElem?_flagList inside, rfl, rfl,
      fun _ holds => StoredBucket.name_of_holdsName holds⟩

/-- A bucket for the name d with three flag bytes that are given, and with a given count of flags
and slot. -/
def namedBucket (flagCount slot : Int32) : StoredBucket where
  flags := Vector.append #v[1, 0, 255] (Vector.replicate 61 0)
  flagCount
  slot
  nameField := Vector.append #v[100, 0] (Vector.replicate 126 0)

/-- The bucket holds its name whatever its flag count and slot are. -/
theorem namedBucket_holdsName (flagCount slot : Int32) :
    (namedBucket flagCount slot).HoldsName "d" := by
  have written : Text.writeUtf16 "d" = [100, 0] := by decide
  refine ⟨by decide, 126, ?_⟩
  change (#v[(100 : UInt8), 0] ++ Vector.replicate 126 (0 : UInt8)).toList = _
  rw [Vector.toList_append, Vector.toList_replicate, written]
  rfl

/-- Of four buckets, the second one says that it has too many flags, the third one is in a negative
slot, and the fourth one is cut off. -/
theorem dynamicBuckets_cut_dropped :
    dynamicBuckets ((dynamicBody [namedBucket 3 2, namedBucket 65 2, namedBucket 3 (-3),
        namedBucket 1 0]).take 703) = .ok [(namedBucket 3 2).bucket] ∧
      (namedBucket 3 2).bucket.flagList[2]? = some true ∧
      (namedBucket 3 2).bucket.name = Text.ofString "d" := by
  have few : [namedBucket 3 2, namedBucket 65 2, namedBucket 3 (-3),
      namedBucket 1 0].length < 0x80000000 := by decide
  obtain ⟨read, each⟩ := dynamicBuckets_cut few (show 4 ≤ 703 by decide)
  obtain ⟨-, flags, -, -, names⟩ := each (namedBucket 3 2) (.head _) (by decide)
  exact ⟨read, flags ⟨2, by decide⟩ (by decide), names "d" (namedBucket_holdsName 3 2)⟩

end DebugLens.CustomInfo
