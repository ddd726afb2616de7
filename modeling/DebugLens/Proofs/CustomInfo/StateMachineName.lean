import DebugLens.CustomInfo.Bodies
import DebugLens.Proofs.Text.Utf16

/-!
# Names of state machine types

The name in a record is looked for unit by unit, so it ends at the first code unit that is zero, or
where less than a unit is left. A zero byte that is half of another unit does not end it, nor do two
that belong to neighbouring units. Every name without the zero character is therefore read back from
its encoding, with a stray byte or a zero unit and anything else behind it.
-/
namespace DebugLens.CustomInfo

open Text (EndsText decodeUnits writeUnit writeUtf16)

/-- The bytes of a code unit. -/
theorem writeUnit_word16 (low high : UInt8) : writeUnit (Bytes.word16 low high) = [low, high] := by
  have lowBound := low.toNat_lt
  have highBound := high.toNat_lt
  unfold writeUnit Bytes.word16
  rw [show (low.toNat + 256 * high.toNat) % 256 = low.toNat by omega,
    show (low.toNat + 256 * high.toNat) / 256 = high.toNat by omega, UInt8.ofNat_toNat,
    UInt8.ofNat_toNat]

/-- Two bytes have 16 bits, and they are a zero unit only if both are zero. -/
theorem word16_bounds (low high : UInt8) :
    Bytes.word16 low high < 0x10000 ∧ (Bytes.word16 low high = 0 ↔ low = 0 ∧ high = 0) := by
  have lowBound := low.toNat_lt
  have highBound := high.toNat_lt
  rw [← UInt8.toNat_inj, ← UInt8.toNat_inj, UInt8.toNat_zero]
  unfold Bytes.word16
  omega

/-- A text ends in front of a zero unit, and where less than a unit is left. -/
theorem endsText_iff (behind : Bytes) :
    EndsText behind ↔ behind.length < 2 ∨ ∃ junk, behind = 0 :: 0 :: junk := by
  match behind with
  | [] => simp [EndsText, Bytes.words16]
  | [_] => simp [EndsText, Bytes.words16]
  | low :: high :: junk =>
    have long : ¬(low :: high :: junk).length < 2 := Nat.not_lt.mpr (Nat.le_add_left 2 _)
    have unit : EndsText (low :: high :: junk) ↔ Bytes.word16 low high = 0 := by
      simp [EndsText, Bytes.words16]
    rw [unit, (word16_bounds low high).2, or_iff_right long]
    simp

/-- Every field consists of code units other than zero and of bytes in front of which a text
ends. -/
theorem exists_nameUnits : ∀ field : Bytes, ∃ (units : List Nat) (behind : Bytes),
    field = units.flatMap writeUnit ++ behind ∧ (∀ unit ∈ units, 0 < unit ∧ unit < 0x10000) ∧
      EndsText behind
  | [] => ⟨[], [], rfl, nofun, nofun⟩
  | [last] => ⟨[], [last], rfl, nofun, nofun⟩
  | low :: high :: rest => by
    by_cases zero : Bytes.word16 low high = 0
    · refine ⟨[], low :: high :: rest, rfl, nofun, fun unit first => ?_⟩
      rw [← Option.some.inj first, zero]
    · obtain ⟨units, behind, split, valid, ends⟩ := exists_nameUnits rest
      refine ⟨Bytes.word16 low high :: units, behind, ?_, ?_, ends⟩
      · rw [List.flatMap_cons, writeUnit_word16, split]
        rfl
      · have bound := (word16_bounds low high).1
        exact List.forall_mem_cons.mpr ⟨⟨Nat.pos_of_ne_zero zero, bound⟩, valid⟩

/-- A name without the zero character is read back from its encoding, also with a stray byte or with
a zero unit and any bytes behind it. In general, a field holds code units other than zero up to
where a zero unit stands or less than a unit is left, and the name is what all these units stand
for, whichever of their bytes are zero. -/
theorem stateMachineName_exact :
    (∀ name : String, '\x00' ∉ name.toList → ∀ (stray : UInt8) (junk : Bytes),
      stateMachineName (writeUtf16 name) = name ∧
        stateMachineName (writeUtf16 name ++ [stray]) = name ∧
        stateMachineName (writeUtf16 name ++ 0 :: 0 :: junk) = name) ∧
    ∀ field : Bytes, ∃ (units : List Nat) (behind : Bytes),
      field = units.flatMap writeUnit ++ behind ∧
        (∀ unit ∈ units, 0 < unit ∧ unit < 0x10000) ∧
        (behind.length < 2 ∨ ∃ junk, behind = 0 :: 0 :: junk) ∧
        stateMachineName field = String.ofList (decodeUnits units) := by
  constructor
  · intro name solid stray junk
    have alone := Text.readUtf16_writeUtf16_append solid ((endsText_iff []).mpr (.inl (by decide)))
    rw [List.append_nil] at alone
    exact ⟨alone,
      Text.readUtf16_writeUtf16_append solid ((endsText_iff [stray]).mpr (.inl Nat.one_lt_two)),
      Text.readUtf16_writeUtf16_append solid ((endsText_iff _).mpr (.inr ⟨junk, rfl⟩))⟩
  · intro field
    obtain ⟨units, behind, rfl, valid, ends⟩ := exists_nameUnits field
    refine ⟨units, behind, rfl, valid, (endsText_iff behind).mp ends, ?_⟩
    exact Text.readUtf16_flatMap_append (fun unit listed => (valid unit listed).2)
      (fun unit listed => Nat.ne_of_gt (valid unit listed).1) ends

/-- The bytes `41 00 00 01 00 4e 3d d8 00 de` hold zeros in every place but that of a unit, and the
name goes on behind each of them. -/
theorem stateMachineName_zeroBytes :
    '\x00' ∉ "AĀ一😀".toList ∧
      writeUtf16 "AĀ一😀" = [0x41, 0, 0, 1, 0, 0x4E, 0x3D, 0xD8, 0, 0xDE] ∧
      stateMachineName [0x41, 0, 0, 1, 0, 0x4E, 0x3D, 0xD8, 0, 0xDE, 0, 0, 0x42, 0] = "AĀ一😀" := by
  have solid : '\x00' ∉ "AĀ一😀".toList := by decide
  have written : writeUtf16 "AĀ一😀" = [0x41, 0, 0, 1, 0, 0x4E, 0x3D, 0xD8, 0, 0xDE] := by decide
  have read := (stateMachineName_exact.1 "AĀ一😀" solid 0 [0x42, 0]).2.2
  rw [written] at read
  exact ⟨solid, written, read⟩

end DebugLens.CustomInfo
