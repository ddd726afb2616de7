import DebugLens.CustomInfo.Container
import DebugLens.Proofs.Bytes

/-!
# The layout of the container

A stored record has a header and a body; its size in the header is that of both. The bytes of a
stored record determine it whatever follows them, so a byte string is at most in one way the
encodings of stored records with something behind them in which no further record begins. A scan
finds exactly these records. It ends without a fault if and only if fewer than eight bytes are
left over.
-/
namespace DebugLens.CustomInfo

/-- A record as it is stored. -/
structure StoredRecord where
  /-- Its version. -/
  version : UInt8
  /-- The number of its kind. -/
  kind : UInt8
  /-- The byte of the header without a meaning. -/
  unused : UInt8
  /-- The length of the padding; it counts only for padded kinds. -/
  padding : UInt8
  /-- The body with its padding. -/
  body : Bytes
  /-- The size is one of 32 bits. -/
  size_lt : recordHeaderSize + body.length < 0x80000000
  /-- The padding of a padded record is that of an alignment and part of the body. -/
  padding_le : isPadded kind.toNat → padding.toNat ≤ greatestPadding ∧ padding.toNat ≤ body.length

namespace StoredRecord

/-- The bytes of a stored record. -/
def encode (stored : StoredRecord) : Bytes :=
  [stored.version, stored.kind, stored.unused, stored.padding] ++
    Bytes.writeInt32 (recordHeaderSize + stored.body.length : Nat) ++ stored.body

/-- The body without padding. -/
def data (stored : StoredRecord) : Bytes :=
  if isPadded stored.kind.toNat then stored.body.take (stored.body.length - stored.padding.toNat)
  else stored.body

/-- What a scan says about a stored record. -/
def record (stored : StoredRecord) : Record where
  kind := stored.kind.toNat
  version := stored.version.toNat
  data := stored.data

/-- The bytes of a stored record, field by field. -/
theorem encode_eq (stored : StoredRecord) :
    ∃ a b c d, Bytes.int32 a b c d = recordHeaderSize + stored.body.length ∧
      stored.encode = stored.version :: stored.kind :: stored.unused :: stored.padding ::
        a :: b :: c :: d :: stored.body := by
  have bound := stored.size_lt
  obtain ⟨a, b, c, d, written, read⟩ :=
    @Bytes.int32_writeInt32 (recordHeaderSize + stored.body.length : Nat) (by omega) (by omega)
  refine ⟨a, b, c, d, read, ?_⟩
  rw [encode, written]
  rfl

/-- What follows the bytes of a stored record is no part of it. -/
theorem encode_append_inj {stored other : StoredRecord} {left right : Bytes}
    (same : stored.encode ++ left = other.encode ++ right) : stored = other ∧ left = right := by
  obtain ⟨a, b, c, d, read, encoded⟩ := stored.encode_eq
  obtain ⟨_, _, _, _, otherRead, otherEncoded⟩ := other.encode_eq
  rw [encoded, otherEncoded] at same
  simp only [List.cons_append, List.cons.injEq] at same
  obtain ⟨version, kind, unused, padding, rfl, rfl, rfl, rfl, bodies⟩ := same
  have length : stored.body.length = other.body.length := by omega
  obtain ⟨body, rest⟩ := List.append_inj bodies length
  cases stored
  cases other
  simp_all

end StoredRecord

/-- A body fits exactly if the size counts it and the header, it is there, and its padding, if it
has any, is that of an alignment and part of it. -/
theorem bodyExtent_eq_ok_iff {kind padding length kept available : Nat} {size : Int} :
    bodyExtent kind padding size available = .ok (length, kept) ↔
      size = recordHeaderSize + length ∧ length ≤ available ∧
        (isPadded kind → padding ≤ greatestPadding ∧ padding ≤ length) ∧
        kept = if isPadded kind then padding else 0 := by
  unfold bodyExtent
  split
  · simp only [reduceCtorEq, false_iff]
    omega
  · cases isPadded kind with
    | false =>
      simp only [Bool.false_and, Bool.false_eq_true, ↓reduceIte, false_implies, true_and,
        Bool.or_eq_true, decide_eq_true_eq]
      split
      · simp only [reduceCtorEq, false_iff]
        omega
      · simp only [Except.ok.injEq, Prod.mk.injEq]
        omega
    | true =>
      simp only [Bool.true_and, ↓reduceIte, true_implies, Bool.or_eq_true, decide_eq_true_eq]
      split
      · simp only [reduceCtorEq, false_iff]
        omega
      · split
        · simp only [reduceCtorEq, false_iff]
          omega
        · simp only [Except.ok.injEq, Prod.mk.injEq]
          omega

/-- A scan finds a stored record at the front and goes on behind it. -/
theorem scanRecords_encode_append (stored : StoredRecord) (rest : Bytes) :
    scanRecords (stored.encode ++ rest) =
      ⟨stored.record :: (scanRecords rest).records, (scanRecords rest).fault?⟩ := by
  obtain ⟨a, b, c, d, read, encoded⟩ := stored.encode_eq
  have extent := bodyExtent_eq_ok_iff.mpr
    ⟨read, show stored.body.length ≤ (stored.body ++ rest).length by simp, stored.padding_le, rfl⟩
  rw [encoded]
  simp only [List.cons_append]
  rw [scanRecords, extent]
  dsimp only
  rw [List.drop_left]
  have data : (stored.body ++ rest).take (stored.body.length -
      if isPadded stored.kind.toNat then stored.padding.toNat else 0) = stored.data := by
    unfold StoredRecord.data
    rw [List.take_append_of_le_length (Nat.sub_le _ _)]
    split
    · rfl
    · exact List.take_length
  rw [data]
  rfl

/-- A scan of less than a header finds nothing. -/
theorem scanRecords_short {bytes : Bytes} (short : bytes.length < recordHeaderSize) :
    scanRecords bytes = ⟨[], none⟩ := by
  unfold scanRecords
  split
  · simp only [List.length_cons, recordHeaderSize] at short
    omega
  · rfl

/-- Where there is room for a header, a stored record begins or the scan ends with a fault. -/
theorem encode_or_fault {bytes : Bytes} (long : recordHeaderSize ≤ bytes.length) :
    (∃ stored rest, bytes = StoredRecord.encode stored ++ rest) ∨
      ∃ fault, scanRecords bytes = ⟨[], some fault⟩ := by
  match bytes, long with
  | version :: kind :: unused :: padding :: a :: b :: c :: d :: rest, _ =>
    cases extent : bodyExtent kind.toNat padding.toNat (Bytes.int32 a b c d) rest.length with
    | error fault => exact .inr ⟨fault, by rw [scanRecords, extent]⟩
    | ok found =>
      obtain ⟨length, kept⟩ := found
      obtain ⟨size, there, padded, -⟩ := bodyExtent_eq_ok_iff.mp extent
      have bounds := Bytes.int32_bounds a b c d
      have taken : (rest.take length).length = length := List.length_take_of_le there
      let stored : StoredRecord :=
        { version, kind, unused, padding
          body := rest.take length
          size_lt := by rw [taken]; omega
          padding_le := by rw [taken]; exact padded }
      have written : Bytes.writeInt32 (recordHeaderSize + stored.body.length : Nat) =
          [a, b, c, d] := by
        rw [← Bytes.writeInt32_int32 a b c d, size]
        simp only [stored, taken, Int.natCast_add]
      refine .inl ⟨stored, rest.drop length, ?_⟩
      rw [StoredRecord.encode, written]
      simp [stored]

/-- A scan finds the stored records at the front, one after another. -/
theorem scanRecords_flatMap_append (stored : List StoredRecord) (rest : Bytes) :
    scanRecords (stored.flatMap StoredRecord.encode ++ rest) =
      ⟨stored.map StoredRecord.record ++ (scanRecords rest).records,
        (scanRecords rest).fault?⟩ := by
  induction stored with
  | nil => rfl
  | cons first stored hypothesis =>
    rw [List.flatMap_cons, List.append_assoc, scanRecords_encode_append, hypothesis]
    rfl

/-- No stored record begins at the front of a byte string. -/
def NoRecord (bytes : Bytes) : Prop := ∀ stored, ¬StoredRecord.encode stored <+: bytes

/-- If a scan finds no record, none begins there. -/
theorem noRecord_of_scanRecords {bytes : Bytes} (nothing : (scanRecords bytes).records = []) :
    NoRecord bytes := by
  rintro stored ⟨rest, rfl⟩
  rw [scanRecords_encode_append] at nothing
  exact List.cons_ne_nil _ _ nothing

/-- A byte string is the encodings of stored records with a rest behind them in which no record
begins. The scan finds these records, without a fault exactly if the rest is shorter than a
header. -/
theorem scanRecords_split (bytes : Bytes) :
    ∃ (stored : List StoredRecord) (rest : Bytes),
      bytes = stored.flatMap StoredRecord.encode ++ rest ∧ NoRecord rest ∧
        (scanRecords bytes).records = stored.map StoredRecord.record ∧
        ((scanRecords bytes).fault? = none ↔ rest.length < recordHeaderSize) := by
  by_cases short : bytes.length < recordHeaderSize
  · have nothing := scanRecords_short short
    refine ⟨[], bytes, rfl, noRecord_of_scanRecords (by rw [nothing]), by rw [nothing]; rfl, ?_⟩
    simp [nothing, short]
  · rcases encode_or_fault (Nat.not_lt.mp short) with ⟨first, tail, found⟩ | ⟨fault, ends⟩
    · have smaller : tail.length < bytes.length := by
        obtain ⟨_, _, _, _, -, encoded⟩ := first.encode_eq
        rw [found, encoded, List.length_append]
        simp only [List.length_cons]
        omega
      obtain ⟨stored, rest, split, ended, records, fault⟩ := scanRecords_split tail
      refine ⟨first :: stored, rest, ?_, ended, ?_, ?_⟩
      · rw [found, split, List.flatMap_cons, List.append_assoc]
      · rw [found, scanRecords_encode_append, List.map_cons, records]
      · rw [found, scanRecords_encode_append, fault]
    · refine ⟨[], bytes, rfl, noRecord_of_scanRecords (by rw [ends]), by rw [ends]; rfl, ?_⟩
      simp [ends, short]
termination_by bytes.length

/-- If no record begins behind stored records, every list of stored records at the front is the
beginning of these. -/
theorem prefix_of_flatMap_prefix {stored other : List StoredRecord} {rest : Bytes}
    (ended : NoRecord rest)
    (front : other.flatMap StoredRecord.encode <+: stored.flatMap StoredRecord.encode ++ rest) :
    other <+: stored := by
  induction other generalizing stored with
  | nil => exact List.nil_prefix
  | cons first other hypothesis =>
    obtain ⟨tail, joined⟩ := front
    rw [List.flatMap_cons, List.append_assoc] at joined
    cases stored with
    | nil => exact absurd ⟨_, joined⟩ (ended first)
    | cons head stored =>
      rw [List.flatMap_cons, List.append_assoc] at joined
      obtain ⟨rfl, behind⟩ := StoredRecord.encode_append_inj joined
      exact List.cons_prefix_cons.mpr ⟨rfl, hypothesis ⟨tail, behind⟩⟩

/-- The longest list of stored records at the front of a byte string. -/
structure Longest (bytes : Bytes) (stored : List StoredRecord) : Prop where
  /-- The encodings of the records stand at the front. -/
  front : stored.flatMap StoredRecord.encode <+: bytes
  /-- Any other such list is a beginning of this one. -/
  longest : ∀ other : List StoredRecord, other.flatMap StoredRecord.encode <+: bytes →
    other <+: stored

/-- Stored records with nothing behind them in which a record begins are the longest list. -/
theorem longest_of_noRecord {bytes rest : Bytes} {stored : List StoredRecord}
    (split : bytes = stored.flatMap StoredRecord.encode ++ rest) (ended : NoRecord rest) :
    Longest bytes stored where
  front := ⟨rest, split.symm⟩
  longest other front := by
    rw [split] at front
    exact prefix_of_flatMap_prefix ended front

/-- There is at most one longest list. -/
theorem Longest.unique {bytes : Bytes} {stored other : List StoredRecord}
    (one : Longest bytes stored) (two : Longest bytes other) : stored = other :=
  (two.longest stored one.front).eq_of_length_le (one.longest other two.front).length_le

/-- Stored records with less than a header behind them make up a byte string. -/
def Complete (bytes : Bytes) (stored : List StoredRecord) (rest : Bytes) : Prop :=
  bytes = stored.flatMap StoredRecord.encode ++ rest ∧ rest.length < recordHeaderSize

/-- Stored records that make up a byte string but for less than a header are the longest list. -/
theorem Complete.longest {bytes rest : Bytes} {stored : List StoredRecord}
    (complete : Complete bytes stored rest) : Longest bytes stored := by
  have nothing := scanRecords_short complete.2
  exact longest_of_noRecord complete.1 (noRecord_of_scanRecords (by rw [nothing]))

/-- Stored records that make up a byte string but for less than a header are all that the scan
finds. -/
theorem scanRecords_eq_iff {bytes : Bytes} {records : List Record} :
    scanRecords bytes = ⟨records, none⟩ ↔
      ∃ stored rest, Complete bytes stored rest ∧ stored.map StoredRecord.record = records := by
  constructor
  · intro scanned
    obtain ⟨stored, rest, split, -, found, fault⟩ := scanRecords_split bytes
    rw [scanned] at found fault
    exact ⟨stored, rest, ⟨split, fault.mp rfl⟩, found.symm⟩
  · rintro ⟨stored, rest, ⟨split, short⟩, rfl⟩
    rw [split, scanRecords_flatMap_append, scanRecords_short short, List.append_nil]

/-- If stored records do not make up a byte string, the scan ends with a fault behind the longest
list of them. -/
theorem scanRecords_of_not_complete {bytes : Bytes}
    (incomplete : ¬∃ stored rest, Complete bytes stored rest) :
    ∃ stored fault, Longest bytes stored ∧
      scanRecords bytes = ⟨stored.map StoredRecord.record, some fault⟩ := by
  obtain ⟨stored, rest, split, ended, records, fault⟩ := scanRecords_split bytes
  have long : ¬rest.length < recordHeaderSize :=
    fun short => incomplete ⟨stored, rest, split, short⟩
  cases found : (scanRecords bytes).fault? with
  | none => exact absurd (fault.mp found) long
  | some cause =>
    refine ⟨stored, cause, longest_of_noRecord split ended, ?_⟩
    rw [← records, ← found]

/-- The global header of a container. -/
def globalHeader (version count first second : UInt8) : Bytes := [version, count, first, second]

/-- The scan of a blob reads the version in the header and the records behind it. -/
theorem scan_globalHeader (version count first second : UInt8) (body : Bytes) :
    scan (globalHeader version count first second ++ body) =
      if version = containerVersion then scanRecords body else ⟨[], none⟩ :=
  rfl

/-- A blob of the container version is scanned without a fault exactly if it consists of its
header, stored records and less than a header of a record; these records are then determined by
the blob and are what the scan finds. Otherwise the scan ends with a fault behind the longest list
of stored records. The count in the header does not matter. A blob without a complete header is at
fault, and one of another version has no records. -/
theorem scan_exact (count first second : UInt8) (body : Bytes) :
    (∀ records, scan (globalHeader containerVersion count first second ++ body) =
        ⟨records, none⟩ ↔
      ∃ stored rest, Complete body stored rest ∧ stored.map StoredRecord.record = records) ∧
    (∀ stored rest other left, Complete body stored rest → Complete body other left →
      stored = other ∧ rest = left) ∧
    ((¬∃ stored rest, Complete body stored rest) →
      ∃ stored fault, Longest body stored ∧
        scan (globalHeader containerVersion count first second ++ body) =
          ⟨stored.map StoredRecord.record, some fault⟩) ∧
    (∀ otherCount otherFirst otherSecond,
      scan (globalHeader containerVersion otherCount otherFirst otherSecond ++ body) =
        scan (globalHeader containerVersion count first second ++ body)) ∧
    (∀ blob : Bytes, blob.length < 4 → scan blob = ⟨[], some .shortHeader⟩) ∧
    ∀ version, version ≠ containerVersion →
      scan (globalHeader version count first second ++ body) = ⟨[], none⟩ := by
  simp only [scan_globalHeader, ↓reduceIte]
  refine ⟨fun records => scanRecords_eq_iff, ?_, scanRecords_of_not_complete,
    fun _ _ _ => trivial, ?_, fun version other => if_neg other⟩
  · intro stored rest other left complete otherComplete
    obtain rfl := complete.longest.unique otherComplete.longest
    have joined := complete.1.symm.trans otherComplete.1
    exact ⟨rfl, List.append_cancel_left joined⟩
  · intro blob short
    unfold scan
    split
    · simp only [List.length_cons] at short
      omega
    · rfl

/-- A record with five bytes, two of them padding. -/
def paddedRecord : StoredRecord where
  version := 4
  kind := 6
  unused := 0
  padding := 2
  body := [1, 2, 3, 4, 5]
  size_lt := by decide
  padding_le := by decide

/-- The header of a record, and less than its body. -/
def cutRecord : Bytes := [4, 0, 0, 0, 20, 0, 0, 0, 9]

/-- The scan of a record that is cut off ends with a fault. -/
theorem scanRecords_cutRecord : scanRecords cutRecord = ⟨[], some (.overrun 0)⟩ := by
  rw [cutRecord, scanRecords]
  rfl

/-- A scan ends with a fault behind the last record that is completely there. -/
theorem scan_cutRecord :
    ∃ stored fault, Longest (paddedRecord.encode ++ cutRecord) stored ∧
      scan (globalHeader containerVersion 2 0 0 ++ (paddedRecord.encode ++ cutRecord)) =
        ⟨stored.map StoredRecord.record, some fault⟩ ∧
      stored.map StoredRecord.data = [[1, 2, 3]] := by
  have found : scan (globalHeader containerVersion 2 0 0 ++ (paddedRecord.encode ++ cutRecord)) =
      ⟨[paddedRecord.record], some (.overrun 0)⟩ := by
    rw [scan_globalHeader, if_pos rfl, scanRecords_encode_append, scanRecords_cutRecord]
  obtain ⟨complete, -, faulty, -⟩ := scan_exact 2 0 0 (paddedRecord.encode ++ cutRecord)
  have incomplete : ¬∃ stored rest, Complete (paddedRecord.encode ++ cutRecord) stored rest := by
    rintro ⟨stored, rest, whole⟩
    have clean := (complete _).mpr ⟨stored, rest, whole, rfl⟩
    rw [found] at clean
    exact absurd (congrArg Scan.fault? clean) (by simp)
  obtain ⟨stored, fault, longest, scanned⟩ := faulty incomplete
  refine ⟨stored, fault, longest, scanned, ?_⟩
  rw [found] at scanned
  have records := congrArg (List.map Record.data) (congrArg Scan.records scanned)
  simp only [List.map_map] at records
  exact records.symm

end DebugLens.CustomInfo
