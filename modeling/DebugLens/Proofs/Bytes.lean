import DebugLens.Bytes

/-!
# Writing integers

A signed integer of 32 bits is written as the four bytes of its residue, the lowest one first.
Writing and reading are inverse to each other: every four bytes are those of the integer they
stand for, and an integer in range is read back.
-/
namespace DebugLens.Bytes

/-- The four bytes of an integer. -/
def writeInt32 (value : Int) : Bytes :=
  let word := (value % 0x100000000).toNat
  [UInt8.ofNat word, UInt8.ofNat (word / 0x100), UInt8.ofNat (word / 0x10000),
    UInt8.ofNat (word / 0x1000000)]

/-- Four bytes stand for an integer of 32 bits. -/
theorem int32_bounds (a b c d : UInt8) :
    -0x80000000 ≤ int32 a b c d ∧ int32 a b c d < 0x80000000 := by
  have first := a.toNat_lt
  have second := b.toNat_lt
  have third := c.toNat_lt
  have fourth := d.toNat_lt
  unfold int32
  dsimp only
  split <;> omega

/-- The residue of the integer that four bytes stand for is their value. -/
theorem int32_residue (a b c d : UInt8) :
    (int32 a b c d % 0x100000000).toNat =
      a.toNat + 256 * (b.toNat + 256 * (c.toNat + 256 * d.toNat)) := by
  have first := a.toNat_lt
  have second := b.toNat_lt
  have third := c.toNat_lt
  have fourth := d.toNat_lt
  unfold int32
  dsimp only
  split <;> omega

/-- A byte is that of every number with its residue. -/
theorem ofNat_eq_of_residue {word : Nat} (byte : UInt8) (residue : word % 256 = byte.toNat) :
    UInt8.ofNat word = byte := by
  apply UInt8.toNat_inj.mp
  rw [UInt8.toNat_ofNat', residue]

/-- Four bytes are those of the integer they stand for. -/
theorem writeInt32_int32 (a b c d : UInt8) : writeInt32 (int32 a b c d) = [a, b, c, d] := by
  have first := a.toNat_lt
  have second := b.toNat_lt
  have third := c.toNat_lt
  have fourth := d.toNat_lt
  unfold writeInt32
  dsimp only
  rw [int32_residue, ofNat_eq_of_residue a (by omega), ofNat_eq_of_residue b (by omega),
    ofNat_eq_of_residue c (by omega), ofNat_eq_of_residue d (by omega)]

/-- The bytes of an integer of 32 bits stand for it. -/
theorem int32_writeInt32 {value : Int} (least : -0x80000000 ≤ value)
    (greatest : value < 0x80000000) :
    ∃ a b c d, writeInt32 value = [a, b, c, d] ∧ int32 a b c d = value := by
  refine ⟨_, _, _, _, rfl, ?_⟩
  unfold int32
  simp only [UInt8.toNat_ofNat']
  split <;> omega

end DebugLens.Bytes
