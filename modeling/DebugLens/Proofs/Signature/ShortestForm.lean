import DebugLens.Proofs.Signature.Encoding

/-!
# Shortest forms of integers and handles

A number of twenty-nine bits is read back from its shortest form, and so is a row of a table from
the shortest form of its handle. What is read as an integer took one, two or four bytes and is no
larger than these can hold. As long as rows have twenty-four bits, no two of them have the same
token, in one table or in different ones.
-/
namespace DebugLens.Signature

namespace CompressedInteger

/-- The shortest form of a number: one byte below 0x80, two bytes below 0x4000, else four. -/
def shortest (value : Nat) (small : value < 0x20000000) : CompressedInteger :=
  if short : value < 0x80 then .short value short
  else if medium : value < 0x4000 then .medium value medium
  else .long value small

/-- The shortest form of an integer has its value. -/
theorem value_shortest (value : Nat) (small : value < 0x20000000) :
    (shortest value small).value = value := by
  unfold shortest
  split
  · rfl
  · split <;> rfl

/-- The bytes of a form, and the numbers that fit into them. -/
theorem length_bytes_cases (integer : CompressedInteger) :
    (integer.bytes.length = 1 ∧ integer.value < 0x80) ∨
      (integer.bytes.length = 2 ∧ integer.value < 0x4000) ∨
      (integer.bytes.length = 4 ∧ integer.value < 0x20000000) := by
  cases integer with
  | short value small => exact .inl ⟨rfl, small⟩
  | medium value small => exact .inr (.inl ⟨rfl, small⟩)
  | long value small => exact .inr (.inr ⟨rfl, small⟩)

/-- No form of a number has fewer bytes than the shortest one. -/
theorem length_shortest_le (value : Nat) (small : value < 0x20000000)
    {integer : CompressedInteger} (same : integer.value = value) :
    (shortest value small).bytes.length ≤ integer.bytes.length := by
  have fits := integer.length_bytes_cases
  rw [same] at fits
  unfold shortest
  split
  · change 1 ≤ integer.bytes.length
    omega
  · split
    · change 2 ≤ integer.bytes.length
      omega
    · change 4 ≤ integer.bytes.length
      omega

end CompressedInteger

/-- The tables that a handle can refer to. -/
inductive HandleTable where
  /-- The types that a module defines. -/
  | definitions
  /-- The types of other modules. -/
  | references
  /-- The types that are described by a signature. -/
  | specifications
deriving DecidableEq, Repr

namespace HandleTable

/-- The tag of a table in a handle. -/
def tag : HandleTable → Nat
  | definitions => 0
  | references => 1
  | specifications => 2

/-- The number of a table, which is the highest byte of its tokens. -/
def number : HandleTable → Nat
  | definitions => 0x02
  | references => 0x01
  | specifications => 0x1B

/-- There are three tags. -/
theorem tag_lt (table : HandleTable) : table.tag < 3 := by cases table <;> decide

/-- No two tables have the same number. -/
theorem number_injective : Function.Injective number := by
  intro table other same
  cases table <;> cases other <;> trivial

/-- The tag selects the table. -/
theorem getElem?_tag (table : HandleTable) : handleTables[table.tag]? = some table.number := by
  cases table <;> rfl

end HandleTable

/-- A row of a table, its number having twenty-four bits. -/
structure TableRow where
  /-- The table. -/
  table : HandleTable
  /-- The number of the row. -/
  row : Nat
  /-- The number leaves the highest byte of a token to the table. -/
  small : row < 0x1000000

namespace TableRow

/-- The token of a row. -/
def token (place : TableRow) : Nat := place.table.number * 0x1000000 + place.row

/-- The shortest handle of a row. -/
def handleBytes (place : TableRow) : Bytes :=
  have coded : 4 * place.row + place.table.tag < 0x20000000 := by
    have tag := place.table.tag_lt
    have small := place.small
    omega
  (CompressedInteger.shortest (4 * place.row + place.table.tag) coded).bytes

/-- The highest byte of a token tells the table, and the other bytes tell the row. -/
theorem token_injective : Function.Injective token := by
  rintro ⟨table, row, small⟩ ⟨other, otherRow, otherSmall⟩ same
  simp only [token] at same
  have numbers : table.number = other.number := by omega
  obtain rfl := HandleTable.number_injective numbers
  obtain rfl : row = otherRow := by omega
  rfl

/-- A row does not reach into the highest byte of its token. -/
theorem tokenOf_eq (place : TableRow) : tokenOf place.table.number place.row = place.token := by
  have apart := Nat.two_pow_add_eq_or_of_lt (i := 24) place.small place.table.number
  rw [tokenOf, token, Nat.mul_comm]
  exact apart.symm

/-- The shortest handle of a row is read as its token. -/
theorem readHandle_handleBytes (place : TableRow) (rest : Bytes) :
    readHandle (place.handleBytes ++ rest) = .ok (place.token, rest) := by
  have tag := place.table.tag_lt
  have selects : (4 * place.row + place.table.tag) % 4 = place.table.tag := by omega
  have leaves : (4 * place.row + place.table.tag) / 4 = place.row := by omega
  rw [readHandle, handleBytes, readCompressed_exact.complete, CompressedInteger.value_shortest]
  simp only [selects, leaves, place.table.getElem?_tag, place.tokenOf_eq]

end TableRow

/-- What is read as an integer took one, two or four bytes, and the integer fits into them. -/
theorem readCompressed_bounded {bytes rest : Bytes} {value : Nat}
    (read : readCompressed bytes = .ok (value, rest)) :
    ∃ taken, bytes = taken ++ rest ∧
      ((taken.length = 1 ∧ value < 0x80) ∨ (taken.length = 2 ∧ value < 0x4000) ∨
        (taken.length = 4 ∧ value < 0x20000000)) := by
  obtain ⟨integer, written, rfl⟩ := readCompressed_exact.sound read
  exact ⟨integer.bytes, written, integer.length_bytes_cases⟩

/-- The shortest form of a number, which no form of the number undercuts, is read as the number;
whatever is read as an integer fits into the one, two or four bytes that it took; the shortest
handle of a row is read as its token; and no two rows have the same token. -/
theorem shortest_forms_exact :
    (∀ value small rest,
      readCompressed ((CompressedInteger.shortest value small).bytes ++ rest) =
          .ok (value, rest) ∧
        ∀ integer : CompressedInteger, integer.value = value →
          (CompressedInteger.shortest value small).bytes.length ≤ integer.bytes.length) ∧
    (∀ bytes value rest, readCompressed bytes = .ok (value, rest) →
      ∃ taken, bytes = taken ++ rest ∧
        ((taken.length = 1 ∧ value < 0x80) ∨ (taken.length = 2 ∧ value < 0x4000) ∨
          (taken.length = 4 ∧ value < 0x20000000))) ∧
    (∀ (place : TableRow) rest,
      readHandle (place.handleBytes ++ rest) =
        .ok (place.table.number * 0x1000000 + place.row, rest)) ∧
    Function.Injective TableRow.token := by
  refine ⟨fun value small rest => ⟨?_, fun integer same => ?_⟩,
    fun bytes value rest read => readCompressed_bounded read,
    TableRow.readHandle_handleBytes, TableRow.token_injective⟩
  · rw [readCompressed_exact.complete, CompressedInteger.value_shortest]
  · exact CompressedInteger.length_shortest_le value small same

/-- The largest number is read back, a number stored in more bytes than it needs is read from all
of them, and the last row of a table is found from its handle. -/
theorem shortest_forms_exact_extremes :
    readCompressed [0xDF, 0xFF, 0xFF, 0xFF, 0x2A] = .ok (0x1FFFFFFF, [0x2A]) ∧
      readCompressed [0xC0, 0x00, 0x00, 0x03, 0x2A] = .ok (3, [0x2A]) ∧
      (∃ taken : Bytes, [0xC0, 0x00, 0x00, 0x03, 0x2A] = taken ++ [0x2A] ∧
        ((taken.length = 1 ∧ 3 < 0x80) ∨ (taken.length = 2 ∧ 3 < 0x4000) ∨
          (taken.length = 4 ∧ 3 < 0x20000000))) ∧
      (CompressedInteger.shortest 3 (by decide)).bytes.length ≤ 4 ∧
      readHandle [0xC3, 0xFF, 0xFF, 0xFE, 0x2A] = .ok (0x1BFFFFFF, [0x2A]) := by
  obtain ⟨integers, bounded, handles, -⟩ := shortest_forms_exact
  have padded : readCompressed [0xC0, 0x00, 0x00, 0x03, 0x2A] = .ok (3, [0x2A]) := rfl
  have least := (integers 3 (by decide) []).2 (.long 3 (by decide)) rfl
  have last := handles ⟨.specifications, 0xFFFFFF, by decide⟩ [0x2A]
  exact ⟨(integers 0x1FFFFFFF (by decide) [0x2A]).1, padded, bounded _ _ _ padded, least, last⟩

end DebugLens.Signature
