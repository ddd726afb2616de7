import DebugLens.CustomInfo.Bodies
import DebugLens.Proofs.Bytes
import DebugLens.Proofs.Refusal

/-!
# Bodies made up of entries

Hoisted scopes and dynamic locals are stored alike: a count and entries of one size. What is read
are the entries that are completely there, up to the count. So a body is read as certain entries if
and only if these stand behind the count and either are as many as it says or have less than one
more entry behind them, and cutting such a body off leaves the entries in front of the cut.
-/
namespace DebugLens

namespace Bytes

/-! ## Integers -/

/-- An integer of 32 bits takes four bytes. -/
theorem length_writeInt32 (value : Int) : (writeInt32 value).length = 4 := rfl

/-- A written integer is read back, whatever follows it. -/
theorem readInt32?_writeInt32_append (value : Int32) (rest : Bytes) :
    readInt32? (writeInt32 value.toInt ++ rest) = some value.toInt := by
  obtain ⟨a, b, c, d, written, read⟩ := int32_writeInt32 value.le_toInt value.toInt_lt
  rw [written, ← read]
  rfl

/-- An integer that is read was written in front of the rest of the bytes. -/
theorem exists_of_readInt32? {bytes : Bytes} {value : Int} (read : readInt32? bytes = some value) :
    ∃ (stored : Int32) (rest : Bytes), stored.toInt = value ∧ bytes = writeInt32 value ++ rest := by
  unfold readInt32? at read
  split at read
  · next a b c d rest =>
    obtain rfl := Option.some.inj read
    obtain ⟨least, greatest⟩ := int32_bounds a b c d
    refine ⟨Int32.ofInt (int32 a b c d), rest, ?_, ?_⟩
    · exact Int32.toInt_ofInt_of_le least greatest
    · rw [writeInt32_int32]
      rfl
  · contradiction

/-- Four bytes or more start with a written integer. -/
theorem exists_writeInt32_append {bytes : Bytes} (long : 4 ≤ bytes.length) :
    ∃ (stored : Int32) (rest : Bytes), bytes = writeInt32 stored.toInt ++ rest := by
  match bytes, long with
  | a :: b :: c :: d :: behind, _ =>
    have read : readInt32? (a :: b :: c :: d :: behind) = some (int32 a b c d) := rfl
    obtain ⟨stored, rest, value, split⟩ := exists_of_readInt32? read
    exact ⟨stored, rest, value ▸ split⟩

/-! ## Pieces -/

variable {size : Nat}

/-- Bytes that are less than a piece have none. -/
theorem pieces_short {bytes : Bytes} (short : bytes.length < size) : pieces size bytes = [] := by
  unfold pieces
  rw [Nat.div_eq_of_lt short]
  rfl

/-- The first piece is followed by those of the rest. -/
theorem pieces_append (positive : 0 < size) {piece : Bytes} (width : piece.length = size)
    (rest : Bytes) : pieces size (piece ++ rest) = piece :: pieces size rest := by
  unfold pieces
  rw [List.length_append, width, Nat.add_comm, Nat.add_div_right _ positive,
    List.range_succ_eq_map, List.map_cons, List.map_map]
  congr 1
  · rw [Nat.zero_mul, List.drop_zero, List.take_left' width]
  · apply List.map_congr_left
    intro index _
    have behind : (piece ++ rest).drop (index.succ * size) = rest.drop (index * size) := by
      rw [Nat.succ_mul, Nat.add_comm, ← List.drop_drop, List.drop_left' width]
    rw [Function.comp_apply, behind]

/-- The pieces of pieces put together are these and those of the rest. -/
theorem pieces_flatten_append (positive : 0 < size) {entries : List Bytes}
    (widths : ∀ entry ∈ entries, entry.length = size) (rest : Bytes) :
    pieces size (entries.flatten ++ rest) = entries ++ pieces size rest := by
  induction entries with
  | nil => rfl
  | cons entry entries hypothesis =>
    obtain ⟨width, others⟩ := List.forall_mem_cons.mp widths
    rw [List.flatten_cons, List.append_assoc, pieces_append positive width, hypothesis others]
    rfl

/-- Pieces put together have their size as often as there are pieces. -/
theorem length_flatten {entries : List Bytes} (widths : ∀ entry ∈ entries, entry.length = size) :
    entries.flatten.length = entries.length * size := by
  induction entries with
  | nil => exact (Nat.zero_mul size).symm
  | cons entry entries hypothesis =>
    obtain ⟨width, others⟩ := List.forall_mem_cons.mp widths
    rw [List.flatten_cons, List.length_append, List.length_cons, width, hypothesis others,
      Nat.succ_mul, Nat.add_comm]

/-- Bytes are their pieces with less than one more behind them. -/
theorem exists_pieces (positive : 0 < size) (bytes : Bytes) :
    ∃ rest, bytes = (pieces size bytes).flatten ++ rest ∧ rest.length < size ∧
      ∀ piece ∈ pieces size bytes, piece.length = size := by
  by_cases short : bytes.length < size
  · exact ⟨bytes, by rw [pieces_short short]; rfl, short, by simp [pieces_short short]⟩
  · have width : (bytes.take size).length = size := List.length_take_of_le (Nat.not_lt.mp short)
    have shorter : (bytes.drop size).length < bytes.length := by
      rw [List.length_drop]
      omega
    obtain ⟨rest, split, less, widths⟩ := exists_pieces positive (bytes.drop size)
    have unfolded : pieces size bytes = bytes.take size :: pieces size (bytes.drop size) := by
      rw [← pieces_append positive width, List.take_append_drop]
    refine ⟨rest, ?_, less, ?_⟩
    · rw [unfolded, List.flatten_cons, List.append_assoc, ← split, List.take_append_drop]
    · rw [unfolded]
      exact List.forall_mem_cons.mpr ⟨width, widths⟩
termination_by bytes.length

end Bytes

namespace CustomInfo

/-- The integer at the front of a body is one that was written there. -/
theorem leadingInt_writeInt32_append (value : Int32) (rest : Bytes) :
    leadingInt (Bytes.writeInt32 value.toInt ++ rest) = .ok value.toInt := by
  unfold leadingInt
  rw [Bytes.readInt32?_writeInt32_append]

/-- The integer at the front of a body was written there. -/
theorem exists_of_leadingInt {data : Bytes} {value : Int} (read : leadingInt data = .ok value) :
    ∃ (stored : Int32) (rest : Bytes),
      stored.toInt = value ∧ data = Bytes.writeInt32 value ++ rest := by
  unfold leadingInt at read
  split at read
  · next found =>
    obtain rfl := Except.ok.inj read
    exact Bytes.exists_of_readInt32? found
  · contradiction

/-- The entries of a body, given what a negative count is refused with. -/
def readEntries (size : Nat) (negative : Int → CustomInfoError) (data : Bytes) :
    Except CustomInfoError (List Bytes) := do
  let count ← leadingInt data
  if count < 0 then throw (negative count)
  return (Bytes.pieces size (data.drop 4)).take count.toNat

/-- Something may be selected from the entries while they are read. -/
theorem map_readEntries {α : Type} (select : Bytes → Option α) (size : Nat)
    (negative : Int → CustomInfoError) (data : Bytes) :
    (readEntries size negative data).map (List.filterMap select) = (do
      let count ← leadingInt data
      if count < 0 then throw (negative count)
      return ((Bytes.pieces size (data.drop 4)).take count.toNat).filterMap select) := by
  unfold readEntries
  cases leadingInt data with
  | error fault => rfl
  | ok count =>
    change Except.map _ (if count < 0 then _ else _) = if count < 0 then _ else _
    split <;> rfl

/-- A body consists of a count, entries of a size and a rest. The entries are as many as the count
says, or fewer because the rest is less than one more. -/
def HoldsEntries (size : Nat) (data : Bytes) (entries : List Bytes) : Prop :=
  ∃ (count : Int32) (rest : Bytes),
    data = Bytes.writeInt32 count.toInt ++ (entries.flatten ++ rest) ∧
    (∀ entry ∈ entries, entry.length = size) ∧
    ((entries.length : Int) = count.toInt ∨
      (entries.length : Int) < count.toInt ∧ rest.length < size)

/-- Entries are read exactly from the bodies that hold them. -/
theorem readEntries_eq_ok_iff {size : Nat} (positive : 0 < size)
    {negative : Int → CustomInfoError} {data : Bytes} {entries : List Bytes} :
    readEntries size negative data = .ok entries ↔ HoldsEntries size data entries := by
  constructor
  · intro read
    obtain ⟨value, counted, rest⟩ := bind_eq_ok_iff.mp read
    obtain ⟨count, body, rfl, rfl⟩ := exists_of_leadingInt counted
    by_cases refused : count.toInt < 0
    · rw [if_pos refused] at rest
      contradiction
    · rw [if_neg refused] at rest
      obtain rfl := Except.ok.inj rest
      rw [List.drop_left' (Bytes.length_writeInt32 _)]
      obtain ⟨left, split, less, widths⟩ := Bytes.exists_pieces positive body
      refine ⟨count, ((Bytes.pieces size body).drop count.toInt.toNat).flatten ++ left, ?_,
        fun entry member => widths entry (List.mem_of_mem_take member), ?_⟩
      · rw [← List.append_assoc _ _ left, ← List.flatten_append, List.take_append_drop, ← split]
      · rw [List.length_take]
        by_cases enough : count.toInt.toNat ≤ (Bytes.pieces size body).length
        · left
          omega
        · right
          rw [List.drop_eq_nil_of_le (by omega)]
          exact ⟨by omega, less⟩
  · rintro ⟨count, rest, rfl, widths, counted⟩
    have admitted : ¬count.toInt < 0 := by omega
    have taken : (Bytes.pieces size (entries.flatten ++ rest)).take count.toInt.toNat =
        entries := by
      rw [Bytes.pieces_flatten_append positive widths]
      rcases counted with whole | ⟨fewer, short⟩
      · exact List.take_left' (by omega)
      · rw [Bytes.pieces_short short, List.append_nil]
        exact List.take_of_length_le (by omega)
    unfold readEntries
    rw [leadingInt_writeInt32_append]
    change (if count.toInt < 0 then _ else _) = _
    rw [if_neg admitted, List.drop_left' (Bytes.length_writeInt32 _), taken]
    rfl

/-- A body that says how many entries it has. -/
def countedBody (entries : List Bytes) : Bytes :=
  Bytes.writeInt32 entries.length ++ entries.flatten

/-- A count of 32 bits is one that can be stored. -/
theorem exists_count {count : Nat} (few : count < 0x80000000) :
    ∃ stored : Int32, stored.toInt = count :=
  ⟨Int32.ofInt count, Int32.toInt_ofInt_of_le (by omega) (by omega)⟩

/-- A counted body holds its entries, whatever follows them. -/
theorem holdsEntries_countedBody_append {size : Nat} {entries : List Bytes}
    (widths : ∀ entry ∈ entries, entry.length = size) (few : entries.length < 0x80000000)
    (behind : Bytes) : HoldsEntries size (countedBody entries ++ behind) entries := by
  obtain ⟨count, counts⟩ := exists_count few
  refine ⟨count, behind, ?_, widths, .inl counts.symm⟩
  rw [countedBody, counts, List.append_assoc]

/-- A counted body takes four bytes for its count. -/
theorem length_countedBody {size : Nat} {entries : List Bytes}
    (widths : ∀ entry ∈ entries, entry.length = size) :
    (countedBody entries).length = 4 + entries.length * size := by
  rw [countedBody, List.length_append, Bytes.length_writeInt32, Bytes.length_flatten widths]

/-- A counted body that is cut off behind its count holds the entries in front of the cut. -/
theorem holdsEntries_take_countedBody {size : Nat} (positive : 0 < size) {entries : List Bytes}
    (widths : ∀ entry ∈ entries, entry.length = size) (few : entries.length < 0x80000000)
    {length : Nat} (long : 4 ≤ length) :
    HoldsEntries size ((countedBody entries).take length)
      (entries.take ((length - 4) / size)) := by
  obtain ⟨count, counts⟩ := exists_count few
  have cut : (countedBody entries).take length =
      Bytes.writeInt32 count.toInt ++ entries.flatten.take (length - 4) := by
    rw [countedBody, ← counts, List.take_append, Bytes.length_writeInt32,
      List.take_of_length_le long]
  have kept : ∀ entry ∈ entries.take ((length - 4) / size), entry.length = size :=
    fun entry member => widths entry (List.mem_of_mem_take member)
  have room : size * ((length - 4) / size) + (length - 4) % size = length - 4 :=
    Nat.div_add_mod _ _
  rw [cut]
  by_cases whole : entries.length ≤ (length - 4) / size
  · -- The cut is behind all entries.
    have fits : entries.flatten.length ≤ length - 4 := by
      have bound := Nat.mul_le_mul_left size whole
      rw [Bytes.length_flatten widths, Nat.mul_comm]
      omega
    rw [List.take_of_length_le whole, List.take_of_length_le fits]
    exact ⟨count, [], by rw [List.append_nil], widths, .inl counts.symm⟩
  · have front : (entries.take ((length - 4) / size)).length = (length - 4) / size :=
      List.length_take_of_le (by omega)
    have width : (entries.take ((length - 4) / size)).flatten.length =
        size * ((length - 4) / size) := by
      rw [Bytes.length_flatten kept, front, Nat.mul_comm]
    refine ⟨count, (entries.drop ((length - 4) / size)).flatten.take ((length - 4) % size), ?_,
      kept, .inr ⟨by omega, ?_⟩⟩
    · conv_lhs => rw [← List.take_append_drop ((length - 4) / size) entries]
      rw [List.flatten_append, List.take_append, width, List.take_of_length_le (by omega)]
      congr 3
      omega
    · exact Nat.lt_of_le_of_lt (List.length_take_le _ _) (Nat.mod_lt _ positive)

end CustomInfo

end DebugLens
