import Mathlib.Data.List.Basic
import DebugLens.Proofs.Bytes
import DebugLens.Signature.Decoder

/-!
# Encodings of integers, handles and modifiers

A reader is matched with the encodings it accepts. It reads exactly these if an encoding, with
any bytes behind it, is read as what it means, and if whatever is read was an encoding of that
meaning in front of the bytes that are left. An integer may be stored in more bytes than it
needs, so a value may have several encodings; no reader prefers one of them.
-/
namespace DebugLens.Signature

/-- A reader takes exactly the encodings of a kind off the front of the bytes, each as what it
means. -/
structure ReadsExactly {ε α : Type} (read : Bytes → Except SignatureFailure (α × Bytes))
    (write : ε → Bytes) (meaning : ε → α) : Prop where
  /-- An encoding is read as what it means, and the bytes behind it are left. -/
  complete : ∀ encoding rest, read (write encoding ++ rest) = .ok (meaning encoding, rest)
  /-- What is read was encoded in front of the bytes that are left. -/
  sound : ∀ {bytes value rest}, read bytes = .ok (value, rest) →
    ∃ encoding, bytes = write encoding ++ rest ∧ meaning encoding = value

/-! ## Integers -/

/-- A compressed integer as it is stored, in one, two or four bytes. -/
inductive CompressedInteger where
  /-- A number of seven bits in one byte. -/
  | short (value : Nat) (small : value < 0x80)
  /-- A number of fourteen bits in two bytes. -/
  | medium (value : Nat) (small : value < 0x4000)
  /-- A number of twenty-nine bits in four bytes. -/
  | long (value : Nat) (small : value < 0x20000000)

namespace CompressedInteger

/-- The number. -/
def value : CompressedInteger → Nat
  | short value _ => value
  | medium value _ => value
  | long value _ => value

/-- The bytes, the most significant one first; the leading bits of the first tell how many there
are. -/
def bytes : CompressedInteger → Bytes
  | short value _ => [UInt8.ofNat value]
  | medium value _ => [UInt8.ofNat (0x80 + value / 0x100), UInt8.ofNat value]
  | long value _ =>
    [UInt8.ofNat (0xC0 + value / 0x1000000), UInt8.ofNat (value / 0x10000),
      UInt8.ofNat (value / 0x100), UInt8.ofNat value]

end CompressedInteger

/-- A stored integer is read back, whatever follows it. -/
theorem readCompressed_complete (integer : CompressedInteger) (rest : Bytes) :
    readCompressed (integer.bytes ++ rest) = .ok (integer.value, rest) := by
  cases integer with
  | short value small =>
    have lead : (UInt8.ofNat value).toNat = value := by rw [UInt8.toNat_ofNat']; omega
    simp [CompressedInteger.bytes, CompressedInteger.value, readCompressed, UInt8.lt_iff_toNat_lt,
      lead, small]
  | medium value small =>
    have lead : (UInt8.ofNat (0x80 + value / 0x100)).toNat = 0x80 + value / 0x100 := by
      rw [UInt8.toNat_ofNat']; omega
    have below : 0x80 + value / 0x100 < 0xC0 := by omega
    have whole : value / 0x100 * 256 + value % 256 = value := by omega
    simp only [CompressedInteger.bytes, CompressedInteger.value, List.cons_append, List.nil_append]
    generalize UInt8.ofNat (0x80 + value / 0x100) = first at lead ⊢
    simp [readCompressed, readMore, UInt8.lt_iff_toNat_lt, lead, below, whole]
  | long value small =>
    have lead : (UInt8.ofNat (0xC0 + value / 0x1000000)).toNat = 0xC0 + value / 0x1000000 := by
      rw [UInt8.toNat_ofNat']; omega
    have aboveShort : ¬0xC0 + value / 0x1000000 < 0x80 := by omega
    have aboveMedium : ¬0xC0 + value / 0x1000000 < 0xC0 := by omega
    have below : 0xC0 + value / 0x1000000 < 0xE0 := by omega
    have whole : ((value / 0x1000000 * 256 + value / 0x10000 % 256) * 256 +
        value / 0x100 % 256) * 256 + value % 256 = value := by omega
    simp only [CompressedInteger.bytes, CompressedInteger.value, List.cons_append, List.nil_append]
    generalize UInt8.ofNat (0xC0 + value / 0x1000000) = first at lead ⊢
    simp [readCompressed, readMore, UInt8.lt_iff_toNat_lt, lead, aboveShort, aboveMedium, below,
      whole]

/-- A number that is continued by further bytes has them as its next digits to the base 256. -/
theorem readMore_sound {count value result : Nat} {bytes rest : Bytes}
    (read : readMore count value bytes = .ok (result, rest)) :
    ∃ more : Bytes, more.length = count ∧ bytes = more ++ rest ∧
      more.foldl (fun value byte => value * 256 + byte.toNat) value = result := by
  induction count generalizing value bytes with
  | zero =>
    cases read
    exact ⟨[], rfl, rfl, rfl⟩
  | succ count hypothesis =>
    cases bytes with
    | nil => cases read
    | cons byte bytes =>
      obtain ⟨more, rfl, rfl, rfl⟩ := hypothesis read
      exact ⟨byte :: more, rfl, rfl, rfl⟩

/-- An integer that is read was stored in front of the bytes that are left. -/
theorem readCompressed_sound {bytes rest : Bytes} {value : Nat}
    (read : readCompressed bytes = .ok (value, rest)) :
    ∃ integer : CompressedInteger, bytes = integer.bytes ++ rest ∧ integer.value = value := by
  cases bytes with
  | nil => cases read
  | cons first tail =>
    simp only [readCompressed, UInt8.lt_iff_toNat_lt] at read
    split at read
    · next short =>
      cases read
      refine ⟨.short first.toNat short, ?_, rfl⟩
      rw [CompressedInteger.bytes, UInt8.ofNat_toNat]
      rfl
    · next notShort =>
      have least : 0x80 ≤ first.toNat := Nat.le_of_not_lt notShort
      split at read
      · next medium =>
        have greatest : first.toNat < 0xC0 := medium
        obtain ⟨more, length, rfl, rfl⟩ := readMore_sound read
        obtain ⟨second, rfl⟩ := List.length_eq_one_iff.mp length
        have secondBound := second.toNat_lt
        refine ⟨.medium ((first.toNat - 0x80) * 256 + second.toNat) (by omega), ?_, rfl⟩
        rw [CompressedInteger.bytes, Bytes.ofNat_eq_of_residue first (by omega),
          Bytes.ofNat_eq_of_residue second (by omega)]
        rfl
      · next notMedium =>
        have least : 0xC0 ≤ first.toNat := Nat.le_of_not_lt notMedium
        split at read
        · next long =>
          have greatest : first.toNat < 0xE0 := long
          obtain ⟨more, length, rfl, rfl⟩ := readMore_sound read
          obtain ⟨second, third, fourth, rfl⟩ := List.length_eq_three.mp length
          have secondBound := second.toNat_lt
          have thirdBound := third.toNat_lt
          have fourthBound := fourth.toNat_lt
          refine ⟨.long ((((first.toNat - 0xC0) * 256 + second.toNat) * 256 + third.toNat) *
            256 + fourth.toNat) (by omega), ?_, rfl⟩
          rw [CompressedInteger.bytes, Bytes.ofNat_eq_of_residue first (by omega),
            Bytes.ofNat_eq_of_residue second (by omega),
            Bytes.ofNat_eq_of_residue third (by omega),
            Bytes.ofNat_eq_of_residue fourth (by omega)]
          rfl
        · cases read

/-- The stored integers are what is read as integers. -/
theorem readCompressed_exact :
    ReadsExactly readCompressed CompressedInteger.bytes CompressedInteger.value :=
  ⟨readCompressed_complete, readCompressed_sound⟩

/-! ## Handles -/

/-- A handle as it is stored: an integer with the tag of one of the tables. -/
structure Handle where
  /-- The integer. -/
  coded : CompressedInteger
  /-- Its two lowest bits are a tag. -/
  tagged : coded.value % 4 < 3

namespace Handle

/-- The table that the handle refers to. -/
def table (handle : Handle) : Nat :=
  List.get [0x02, 0x01, 0x1B] ⟨handle.coded.value % 4, handle.tagged⟩

/-- The row that the handle refers to. -/
def row (handle : Handle) : Nat := handle.coded.value / 4

/-- The row as a token, with the table in the highest byte. -/
def token (handle : Handle) : Nat := handle.table * 0x1000000 ||| handle.row

/-- The bytes. -/
def bytes (handle : Handle) : Bytes := handle.coded.bytes

end Handle

/-- The stored handles are what is read as handles. -/
theorem readHandle_exact : ReadsExactly readHandle Handle.bytes Handle.token where
  complete handle rest := by
    have tagged : handleTables[handle.coded.value % 4]? = some handle.table :=
      List.getElem?_eq_getElem handle.tagged
    rw [readHandle, Handle.bytes, readCompressed_exact.complete]
    simp only [tagged]
    rfl
  sound {bytes token rest} read := by
    unfold readHandle at read
    split at read
    · cases read
    · next coded after readCoded =>
      obtain ⟨integer, written, rfl⟩ := readCompressed_exact.sound readCoded
      split at read
      · next table tagged =>
        cases read
        obtain ⟨known, rfl⟩ := List.getElem?_eq_some_iff.mp tagged
        exact ⟨⟨integer, known⟩, written, rfl⟩
      · cases read

/-! ## Custom modifiers -/

/-- A custom modifier as it is stored. -/
structure Modifier where
  /-- The code in front of the handle. -/
  code : UInt8
  /-- The code is the one of a required or an optional modifier. -/
  modifies : code = 0x1F ∨ code = 0x20
  /-- The type that modifies; it has no bearing on what is decoded. -/
  handle : Handle

/-- There are two codes of modifiers. -/
theorem isModifier_iff {code : UInt8} : isModifier code = true ↔ code = 0x1F ∨ code = 0x20 := by
  simp [isModifier]

/-- The bytes of a modifier. -/
def Modifier.bytes (modifier : Modifier) : Bytes := modifier.code :: modifier.handle.bytes

/-- The bytes of modifiers in a row. -/
def modifierBytes (modifiers : List Modifier) : Bytes := modifiers.flatMap Modifier.bytes

/-- No modifier begins with the first of the bytes. -/
def Unmodified (bytes : Bytes) : Prop := ∀ code ∈ bytes.head?, isModifier code = false

/-- Where no modifier begins, nothing is skipped. -/
theorem skipModifiers_of_unmodified {bytes : Bytes} (unmodified : Unmodified bytes) :
    skipModifiers bytes = .ok bytes := by
  cases bytes with
  | nil => rw [skipModifiers]
  | cons code tail =>
    rw [skipModifiers, if_neg]
    rw [unmodified code rfl]
    exact Bool.false_ne_true

/-- Modifiers in front make no difference to what is left when they are skipped. -/
theorem skipModifiers_modifierBytes (modifiers : List Modifier) (rest : Bytes) :
    skipModifiers (modifierBytes modifiers ++ rest) = skipModifiers rest := by
  induction modifiers with
  | nil => rfl
  | cons modifier modifiers hypothesis =>
    have handle := readHandle_exact.complete modifier.handle (modifierBytes modifiers ++ rest)
    calc skipModifiers (modifierBytes (modifier :: modifiers) ++ rest)
      _ = skipModifiers (modifier.code ::
            (modifier.handle.bytes ++ (modifierBytes modifiers ++ rest))) := by
        simp [modifierBytes, Modifier.bytes]
      _ = skipModifiers (modifierBytes modifiers ++ rest) := by
        rw [skipModifiers, if_pos (isModifier_iff.mpr modifier.modifies)]
        split
        · next failed => rw [handle] at failed; cases failed
        · next found => rw [handle] at found; cases found; rfl
      _ = skipModifiers rest := hypothesis

/-- Modifiers are skipped up to a byte that is no code of one. -/
theorem skipModifiers_front (modifiers : List Modifier) {code : UInt8}
    (plain : isModifier code = false) (tail : Bytes) :
    skipModifiers (modifierBytes modifiers ++ code :: tail) = .ok (code :: tail) := by
  rw [skipModifiers_modifierBytes]
  apply skipModifiers_of_unmodified
  rintro _ ⟨⟩
  exact plain

/-- What is skipped is modifiers, up to where no further one begins. -/
theorem skipModifiers_eq_ok_iff {bytes rest : Bytes} :
    skipModifiers bytes = .ok rest ↔
      (∃ modifiers, bytes = modifierBytes modifiers ++ rest) ∧ Unmodified rest := by
  constructor
  · intro skipped
    fun_induction skipModifiers bytes with
    | case1 =>
      cases skipped
      refine ⟨⟨[], rfl⟩, ?_⟩
      rintro _ ⟨⟩
    | case2 => cases skipped
    | case3 code tail modifies _ after read hypothesis =>
      obtain ⟨⟨modifiers, written⟩, unmodified⟩ := hypothesis skipped
      obtain ⟨handle, rfl, -⟩ := readHandle_exact.sound read
      refine ⟨⟨⟨code, isModifier_iff.mp modifies, handle⟩ :: modifiers, ?_⟩, unmodified⟩
      simp [written, modifierBytes, Modifier.bytes]
    | case4 code tail unmodified =>
      cases skipped
      refine ⟨⟨[], rfl⟩, ?_⟩
      rintro _ ⟨⟩
      exact Bool.eq_false_iff.mpr unmodified
  · rintro ⟨⟨modifiers, rfl⟩, unmodified⟩
    rw [skipModifiers_modifierBytes, skipModifiers_of_unmodified unmodified]

end DebugLens.Signature
