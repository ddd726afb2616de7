import DebugLens.Proofs.CustomInfo.Layout

/-!
# The first record of a kind

A search goes through the stored records of a blob from the front and ends at the first one of
the kind it looks for. It finds a body if and only if the blob has the layout of a container up to
a record of that kind with that body and no record of that kind stands in front of it. What stands
behind the end of that record does not matter: there the blob may be cut off, go on or be damaged.
A search that comes to a fault before any record of its kind fails.
-/
namespace DebugLens.CustomInfo

/-- The first record of a kind in a blob has the given body. -/
def FirstRecord (blob : Bytes) (kind : Int) (data : Bytes) : Prop :=
  ∃ (count first second : UInt8) (before : List StoredRecord) (found : StoredRecord)
    (rest : Bytes),
    blob = globalHeader containerVersion count first second ++
      (before.flatMap StoredRecord.encode ++ (found.encode ++ rest)) ∧
    (∀ other ∈ before, (other.kind.toNat : Int) ≠ kind) ∧
    (found.kind.toNat : Int) = kind ∧ found.data = data

/-- The body of a record leaves room for its header in a size of 32 bits. -/
theorem FirstRecord.length_lt {blob : Bytes} {kind : Int} {data : Bytes}
    (first : FirstRecord blob kind data) : recordHeaderSize + data.length < 0x80000000 := by
  obtain ⟨-, -, -, -, found, -, -, -, -, rfl⟩ := first
  have bound := found.size_lt
  have shorter : found.data.length ≤ found.body.length := by
    unfold StoredRecord.data
    split
    · exact List.length_take_le' _ _
    · exact Nat.le_refl _
  omega

/-- A search in scanned records gives a body exactly if the first record of the kind has it. -/
theorem first?_eq_some_iff {scan : Scan} {kind : Int} {data : Bytes} :
    scan.first? kind = .ok (some data) ↔
      ∃ record, scan.records.find? (fun record => (record.kind : Int) = kind) = some record ∧
        record.data = data := by
  unfold Scan.first?
  cases scan.records.find? (fun record => (record.kind : Int) = kind) with
  | some record => simp
  | none => cases scan.fault? <;> simp

/-- No record of stored ones is of a kind exactly if none of these is stored with its number. -/
theorem forall_record_iff {stored : List StoredRecord} {kind : Int} :
    (∀ record ∈ stored.map StoredRecord.record, (!decide ((record.kind : Int) = kind)) = true) ↔
      ∀ other ∈ stored, (other.kind.toNat : Int) ≠ kind := by
  simp [StoredRecord.record]

/-- The record of a stored one is the first of its kind if none in front of it is of that kind. -/
theorem find?_record {before : List StoredRecord} {found : StoredRecord} {kind : Int}
    (others : ∀ other ∈ before, (other.kind.toNat : Int) ≠ kind)
    (ofKind : (found.kind.toNat : Int) = kind) (behind : List Record) :
    (before.map StoredRecord.record ++ found.record :: behind).find?
      (fun record => (record.kind : Int) = kind) = some found.record :=
  List.find?_eq_some_iff_append.mpr
    ⟨decide_eq_true ofKind, _, behind, rfl, forall_record_iff.mpr others⟩

/-- The first record of a kind among those of stored ones is that of one with none of the kind in
front of it. -/
theorem split_of_find?_record {stored : List StoredRecord} {kind : Int} {record : Record}
    (first : (stored.map StoredRecord.record).find? (fun record => (record.kind : Int) = kind) =
      some record) :
    ∃ before found after, stored = before ++ found :: after ∧
      (∀ other ∈ before, (other.kind.toNat : Int) ≠ kind) ∧
      (found.kind.toNat : Int) = kind ∧ found.record = record := by
  obtain ⟨ofKind, front, back, split, others⟩ := List.find?_eq_some_iff_append.mp first
  obtain ⟨before, behind, rfl, rfl, tail⟩ := List.map_eq_append_iff.mp split
  obtain ⟨found, after, rfl, rfl, -⟩ := List.map_eq_cons_iff.mp tail
  exact ⟨before, found, after, rfl, forall_record_iff.mp others, of_decide_eq_true ofKind, rfl⟩

/-- A scan that finds something is one of a blob of the container version. -/
theorem blob_of_scan {blob : Bytes} (found : (scan blob).records ≠ []) :
    ∃ count first second body,
      blob = globalHeader containerVersion count first second ++ body ∧
        (scan blob).records = (scanRecords body).records := by
  unfold scan at found ⊢
  split at found
  · next version count first second body =>
    split at found
    · next same => exact ⟨count, first, second, body, by rw [same]; rfl, by rw [if_pos same]⟩
    · exact absurd rfl found
  · exact absurd rfl found

/-- Stored records up to one of them are those in front of it and that one. -/
theorem flatMap_encode_concat (before : List StoredRecord) (found : StoredRecord) (rest : Bytes) :
    (before ++ [found]).flatMap StoredRecord.encode ++ rest =
      before.flatMap StoredRecord.encode ++ (found.encode ++ rest) := by
  rw [List.flatMap_append, List.flatMap_singleton, List.append_assoc]

/-- The header of a container and stored records stand at the front of a blob and end at a
position. -/
def Opens (blob : Bytes) (stored : List StoredRecord) (stop : Nat) : Prop :=
  ∃ count first second, ∃ front : Bytes,
    front = globalHeader containerVersion count first second ++
      stored.flatMap StoredRecord.encode ∧
    front <+: blob ∧ front.length = stop

/-- The first record of a kind in a blob is the given one, and it ends at a position. -/
def FirstEndsAt (blob : Bytes) (kind : Int) (record : Record) (stop : Nat) : Prop :=
  ∃ before found, Opens blob (before ++ [found]) stop ∧
    (∀ other ∈ before, (other.kind.toNat : Int) ≠ kind) ∧
    (found.kind.toNat : Int) = kind ∧ found.record = record

/-- What stands at the front of a blob up to a position does not depend on what is behind it. -/
theorem Opens.of_take_prefix {blob other : Bytes} {stored : List StoredRecord} {stop : Nat}
    (opens : Opens blob stored stop) (same : blob.take stop <+: other) :
    Opens other stored stop := by
  obtain ⟨count, first, second, front, made, stands, rfl⟩ := opens
  rw [← List.prefix_iff_eq_take.mp stands] at same
  exact ⟨count, first, second, front, made, same, rfl⟩

/-- The first record of a kind is that of every blob that is the same up to its end. -/
theorem FirstEndsAt.of_take_prefix {blob other : Bytes} {kind : Int} {record : Record} {stop : Nat}
    (ends : FirstEndsAt blob kind record stop) (same : blob.take stop <+: other) :
    FirstEndsAt other kind record stop := by
  obtain ⟨before, found, opens, searched⟩ := ends
  exact ⟨before, found, opens.of_take_prefix same, searched⟩

/-- The scan of a blob begins with the stored records at its front. -/
theorem Opens.scan_records {blob : Bytes} {stored : List StoredRecord} {stop : Nat}
    (opens : Opens blob stored stop) :
    ∃ behind, (scan blob).records = stored.map StoredRecord.record ++ behind := by
  obtain ⟨count, first, second, -, rfl, ⟨rest, rfl⟩, -⟩ := opens
  rw [List.append_assoc, scan_globalHeader, if_pos rfl, scanRecords_flatMap_append]
  exact ⟨_, rfl⟩

/-- A search in the scan of a blob finds the first record of the kind, where it ends. -/
theorem find?_scan_eq_some_iff {blob : Bytes} {kind : Int} {record : Record} :
    (scan blob).records.find? (fun record => (record.kind : Int) = kind) = some record ↔
      ∃ stop, FirstEndsAt blob kind record stop := by
  constructor
  · intro searched
    have nonempty : (scan blob).records ≠ [] := by
      intro empty
      rw [empty] at searched
      contradiction
    obtain ⟨count, first, second, body, rfl, records⟩ := blob_of_scan nonempty
    obtain ⟨stored, rest, rfl, -, scanned, -⟩ := scanRecords_split body
    rw [records, scanned] at searched
    obtain ⟨before, found, after, rfl, others, ofKind, same⟩ := split_of_find?_record searched
    refine ⟨_, before, found, ⟨count, first, second, _, rfl, ?_, rfl⟩, others, ofKind, same⟩
    refine ⟨after.flatMap StoredRecord.encode ++ rest, ?_⟩
    rw [List.append_assoc, flatMap_encode_concat, List.flatMap_append, List.flatMap_cons,
      List.append_assoc, List.append_assoc]
  · rintro ⟨stop, before, found, opens, others, ofKind, rfl⟩
    obtain ⟨behind, records⟩ := opens.scan_records
    rw [records, List.map_append, List.append_assoc]
    exact find?_record others ofKind behind

/-- The first record of a kind has a body exactly if it ends somewhere and has that body. -/
theorem firstRecord_iff {blob : Bytes} {kind : Int} {data : Bytes} :
    FirstRecord blob kind data ↔
      ∃ record, (∃ stop, FirstEndsAt blob kind record stop) ∧ record.data = data := by
  constructor
  · rintro ⟨count, first, second, before, found, rest, rfl, others, ofKind, rfl⟩
    refine ⟨found.record, ⟨_, before, found, ⟨count, first, second, _, rfl, ⟨rest, ?_⟩, rfl⟩,
      others, ofKind, rfl⟩, rfl⟩
    rw [List.append_assoc, flatMap_encode_concat]
  · rintro ⟨_, ⟨stop, before, found, opens, others, ofKind, rfl⟩, rfl⟩
    obtain ⟨count, first, second, -, rfl, ⟨rest, rfl⟩, -⟩ := opens
    refine ⟨count, first, second, before, found, rest, ?_, others, ofKind, rfl⟩
    rw [List.append_assoc, flatMap_encode_concat]

/-- A search in a blob that is not empty is one in its scan. -/
theorem findRecord?_of_ne_nil {blob : Bytes} (filled : blob ≠ []) (kind : Int) :
    findRecord? (some blob) kind = (scan blob).first? kind := by
  cases blob with
  | nil => contradiction
  | cons byte rest => rfl

/-- A search gives a body exactly if the first record of the kind in the blob has it. -/
theorem findRecord?_eq_some_iff {blob : Bytes} {kind : Int} {data : Bytes} :
    findRecord? (some blob) kind = .ok (some data) ↔ FirstRecord blob kind data := by
  have found_iff : (scan blob).first? kind = .ok (some data) ↔ FirstRecord blob kind data := by
    simp only [first?_eq_some_iff, find?_scan_eq_some_iff, firstRecord_iff]
  cases blob with
  | nil => exact iff_of_false nofun fun first => nomatch found_iff.mpr first
  | cons byte rest => exact found_iff

/-- The end of stored records at the front of a blob lies behind the header and their bytes. -/
theorem Opens.stop_eq {blob : Bytes} {stored : List StoredRecord} {stop : Nat}
    (opens : Opens blob stored stop) : stop = 4 + (stored.flatMap StoredRecord.encode).length := by
  obtain ⟨count, first, second, -, rfl, -, rfl⟩ := opens
  exact List.length_append

/-- Of two lists of stored records at the front of a blob, one is the beginning of the other. -/
theorem Opens.comparable {blob : Bytes} {stored other : List StoredRecord} {stop position : Nat}
    (opens : Opens blob stored stop) (otherOpens : Opens blob other position) :
    stored <+: other ∨ other <+: stored := by
  obtain ⟨count, first, second, -, rfl, ⟨rest, rfl⟩, -⟩ := opens
  obtain ⟨_, _, _, -, rfl, ⟨otherRest, same⟩, -⟩ := otherOpens
  simp only [globalHeader, List.cons_append, List.nil_append, List.cons.injEq] at same
  obtain ⟨-, -, -, -, bodies⟩ := same
  obtain ⟨longest, left, split, ended, -⟩ :=
    scanRecords_split (stored.flatMap StoredRecord.encode ++ rest)
  have reached : stored <+: longest := prefix_of_flatMap_prefix ended ⟨rest, split⟩
  have otherReached : other <+: longest :=
    prefix_of_flatMap_prefix ended ⟨otherRest, bodies.trans split⟩
  exact List.prefix_or_prefix_of_prefix reached otherReached

/-- Stored records up to one of a kind do not go on to a first one of that kind. -/
theorem eq_of_prefix_first {before behind : List StoredRecord} {found last : StoredRecord}
    {kind : Int} (ofKind : (found.kind.toNat : Int) = kind)
    (others : ∀ other ∈ behind, (other.kind.toNat : Int) ≠ kind)
    (front : before ++ [found] <+: behind ++ [last]) : before ++ [found] = behind ++ [last] := by
  rcases List.prefix_concat_iff.mp front with same | within
  · exact same
  · have inside : found ∈ behind := within.subset (List.mem_append_right before List.mem_cons_self)
    exact absurd ofKind (others found inside)

/-- The first record of a kind ends at one position only. -/
theorem FirstEndsAt.unique {blob : Bytes} {kind : Int} {record other : Record}
    {stop position : Nat} (ends : FirstEndsAt blob kind record stop)
    (otherEnds : FirstEndsAt blob kind other position) : record = other ∧ stop = position := by
  obtain ⟨before, found, opens, others, ofKind, rfl⟩ := ends
  obtain ⟨behind, last, otherOpens, otherOthers, otherKind, rfl⟩ := otherEnds
  have same : before ++ [found] = behind ++ [last] := by
    rcases opens.comparable otherOpens with front | front
    · exact eq_of_prefix_first ofKind otherOthers front
    · exact (eq_of_prefix_first otherKind others front).symm
  obtain ⟨-, rfl⟩ := List.append_singleton_inj.mp same
  rw [opens.stop_eq, otherOpens.stop_eq, same]
  exact ⟨rfl, rfl⟩

/-- A search ends at the first record of its kind, so it gives the body of that record for every
blob with the same bytes up to the end of the record, whatever is behind them. The scan has a
first record of the kind exactly if there is such an end, and there is at most one. If the scan
has no record of the kind, the search fails if the scan does, and else finds nothing. -/
theorem search_settled_by_front (blob : Bytes) (filled : blob ≠ []) (kind : Int) :
    (∀ record, (scan blob).records.find? (fun record => (record.kind : Int) = kind) =
        some record ↔ ∃ stop, FirstEndsAt blob kind record stop) ∧
    (∀ record stop, FirstEndsAt blob kind record stop →
      (∀ other position, FirstEndsAt blob kind other position →
        record = other ∧ stop = position) ∧
      ∀ damaged : Bytes, blob.take stop <+: damaged →
        findRecord? (some damaged) kind = .ok (some record.data)) ∧
    ((∀ record ∈ (scan blob).records, (record.kind : Int) ≠ kind) →
      (∀ fault, (scan blob).fault? = some fault →
        findRecord? (some blob) kind = .error fault) ∧
      ((scan blob).fault? = none → findRecord? (some blob) kind = .ok none)) := by
  refine ⟨fun record => find?_scan_eq_some_iff, fun record stop ends => ⟨?_, ?_⟩, fun absent => ?_⟩
  · exact fun other position otherEnds => ends.unique otherEnds
  · intro damaged same
    have first := firstRecord_iff.mpr ⟨record, ⟨stop, ends.of_take_prefix same⟩, rfl⟩
    exact findRecord?_eq_some_iff.mpr first
  · have unfound : (scan blob).records.find? (fun record => (record.kind : Int) = kind) = none :=
      List.find?_eq_none.mpr fun record listed => by simpa using absent record listed
    rw [findRecord?_of_ne_nil filled, Scan.first?, unfound]
    constructor
    · intro fault failed
      rw [failed]
    · intro passed
      rw [passed]

/-- A record that forwards to the eighth method. -/
def forwardRecord : StoredRecord where
  version := 4
  kind := 1
  unused := 0
  padding := 0
  body := [8, 0, 0, 0]
  size_lt := by decide
  padding_le := by decide

/-- A forward record, a padded one, and a record that is cut off. -/
def crackedBlob : Bytes :=
  globalHeader containerVersion 3 0 0 ++
    ([forwardRecord, paddedRecord].flatMap StoredRecord.encode ++ cutRecord)

/-- What the scan of the cracked blob gives: two records and a fault. -/
theorem scan_crackedBlob :
    scan crackedBlob = ⟨[forwardRecord.record, paddedRecord.record], some (.overrun 0)⟩ := by
  rw [crackedBlob, scan_globalHeader, if_pos rfl, scanRecords_flatMap_append,
    scanRecords_cutRecord]
  rfl

/-- The padded record is found whether the blob ends behind it or goes on with other bytes, while
a search for a kind that does not occur fails at the record that is cut off. -/
theorem search_settled_by_front_cracked :
    crackedBlob ≠ [] ∧ FirstEndsAt crackedBlob 6 paddedRecord.record 29 ∧
      findRecord? (some (crackedBlob.take 29)) 6 = .ok (some [1, 2, 3]) ∧
      findRecord? (some (crackedBlob.take 29 ++ [0xFF, 6, 6])) 6 = .ok (some [1, 2, 3]) ∧
      (∀ record ∈ (scan crackedBlob).records, (record.kind : Int) ≠ 0) ∧
      findRecord? (some crackedBlob) 0 = .error (.overrun 0) := by
  have filled : crackedBlob ≠ [] := List.cons_ne_nil _ _
  have ends : FirstEndsAt crackedBlob 6 paddedRecord.record 29 := by
    refine ⟨[forwardRecord], paddedRecord, ⟨3, 0, 0, _, rfl, ?_, rfl⟩, by decide, by decide, rfl⟩
    exact List.append_assoc _ _ _ ▸ List.prefix_append _ cutRecord
  have absent : ∀ record ∈ (scan crackedBlob).records, (record.kind : Int) ≠ 0 := by
    rw [scan_crackedBlob]
    decide
  obtain ⟨-, settled, -⟩ := search_settled_by_front crackedBlob filled 6
  obtain ⟨-, found⟩ := settled _ _ ends
  obtain ⟨-, -, unfound⟩ := search_settled_by_front crackedBlob filled 0
  have failed := (unfound absent).1 (.overrun 0) (by rw [scan_crackedBlob])
  exact ⟨filled, ends, found _ List.prefix_rfl, found _ (List.prefix_append _ _), absent, failed⟩

end DebugLens.CustomInfo
