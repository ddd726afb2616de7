import DebugLens.Text.Utf16

/-!
# Written UTF-16 is read back

A character below the supplementary planes is one code unit and every other one is a surrogate
pair, so the units of a text say where its characters end. No unit of a text without the zero
character is zero, so such a text is read back from its bytes, if they end the field, but for a
single byte, or a zero unit follows them.
-/
namespace DebugLens.Text

/-- The numbers of characters leave out the surrogates. -/
theorem toNat_ranges (c : Char) : c.toNat < 0xD800 ∨ 0xDFFF < c.toNat ∧ c.toNat < 0x110000 :=
  c.valid

/-- Code units have 16 bits. -/
theorem lt_of_mem_unitsOfChar {c : Char} {unit : Nat} (member : unit ∈ unitsOfChar c) :
    unit < 0x10000 := by
  have ranges := toNat_ranges c
  unfold unitsOfChar at member
  split at member
  · next small =>
    rw [List.mem_singleton.mp member]
    exact small
  · have pair : unit = 0xD800 + (c.toNat - 0x10000) / 0x400 ∨
        unit = 0xDC00 + (c.toNat - 0x10000) % 0x400 := by
      simpa using member
    omega

/-- Only the zero character has a zero unit. -/
theorem ne_zero_of_mem_unitsOfChar {c : Char} (solid : c ≠ '\x00') {unit : Nat}
    (member : unit ∈ unitsOfChar c) : unit ≠ 0 := by
  unfold unitsOfChar at member
  split at member
  · rw [List.mem_singleton.mp member]
    exact fun zero => solid (Char.toNat_inj.mp zero)
  · have pair : unit = 0xD800 + (c.toNat - 0x10000) / 0x400 ∨
        unit = 0xDC00 + (c.toNat - 0x10000) % 0x400 := by
      simpa using member
    omega

/-- The units of a character are decoded as that character, whatever follows them. -/
theorem decodeUnits_unitsOfChar_append (c : Char) (units : List Nat) :
    decodeUnits (unitsOfChar c ++ units) = c :: decodeUnits units := by
  have ranges := toNat_ranges c
  unfold unitsOfChar
  split
  · have unpaired : isHighSurrogate c.toNat = false ∧ isLowSurrogate c.toNat = false := by
      unfold isHighSurrogate isLowSurrogate
      simp only [Bool.and_eq_false_iff, decide_eq_false_iff_not]
      omega
    cases units with
    | nil => simp [decodeUnits, unpaired]
    | cons next rest => simp [decodeUnits, unpaired]
  · next large =>
    have high : isHighSurrogate (0xD800 + (c.toNat - 0x10000) / 0x400) = true := by
      unfold isHighSurrogate
      simp only [Bool.and_eq_true, decide_eq_true_eq]
      omega
    have low : isLowSurrogate (0xDC00 + (c.toNat - 0x10000) % 0x400) = true := by
      unfold isLowSurrogate
      simp only [Bool.and_eq_true, decide_eq_true_eq]
      omega
    have joined : ofSurrogates (0xD800 + (c.toNat - 0x10000) / 0x400)
        (0xDC00 + (c.toNat - 0x10000) % 0x400) = c := by
      unfold ofSurrogates
      rw [show 0x10000 + (0xD800 + (c.toNat - 0x10000) / 0x400 - 0xD800) * 0x400 +
        (0xDC00 + (c.toNat - 0x10000) % 0x400 - 0xDC00) = c.toNat by omega]
      exact Char.ofNat_toNat c
    simp only [List.cons_append, List.nil_append, decodeUnits, high, low, joined, ↓reduceIte]

/-- The units of characters are decoded as these characters. -/
theorem decodeUnits_flatMap (characters : List Char) :
    decodeUnits (characters.flatMap unitsOfChar) = characters := by
  induction characters with
  | nil => rfl
  | cons c characters hypothesis =>
    rw [List.flatMap_cons, decodeUnits_unitsOfChar_append, hypothesis]

/-- A written unit is read back, whatever follows it. -/
theorem words16_writeUnit_append {unit : Nat} (small : unit < 0x10000) (rest : Bytes) :
    Bytes.words16 (writeUnit unit ++ rest) = unit :: Bytes.words16 rest := by
  have joined : Bytes.word16 (UInt8.ofNat (unit % 256)) (UInt8.ofNat (unit / 256)) = unit := by
    unfold Bytes.word16
    rw [UInt8.toNat_ofNat', UInt8.toNat_ofNat']
    omega
  simp only [writeUnit, List.cons_append, List.nil_append, Bytes.words16, joined]

/-- Written units are read back, whatever follows them. -/
theorem words16_flatMap_append {units : List Nat} (small : ∀ unit ∈ units, unit < 0x10000)
    (rest : Bytes) :
    Bytes.words16 (units.flatMap writeUnit ++ rest) = units ++ Bytes.words16 rest := by
  induction units with
  | nil => rfl
  | cons unit units hypothesis =>
    obtain ⟨first, others⟩ := List.forall_mem_cons.mp small
    rw [List.flatMap_cons, List.append_assoc, words16_writeUnit_append first, hypothesis others]
    rfl

/-- A text ends in front of these bytes: they have no code unit, or the first one is zero. -/
def EndsText (behind : Bytes) : Prop := ∀ unit ∈ (Bytes.words16 behind).head?, unit = 0

/-- A text ends in front of zeros. -/
theorem endsText_replicate (count : Nat) : EndsText (List.replicate count 0) := by
  match count with
  | 0 | 1 => exact fun unit member => nomatch member
  | count + 2 =>
    intro unit member
    exact (Option.some.inj member).symm

/-- Nothing is read where a text ends. -/
theorem takeWhile_eq_nil_of_endsText {behind : Bytes} (ends : EndsText behind) :
    (Bytes.words16 behind).takeWhile (· ≠ 0) = [] := by
  unfold EndsText at ends
  cases units : Bytes.words16 behind with
  | nil => rfl
  | cons unit rest =>
    rw [units] at ends
    exact List.takeWhile_cons_of_neg (by simp [ends unit rfl])

/-- Code units other than zero are all read, whichever of their bytes are zero, if a text ends
behind them. -/
theorem readUtf16_flatMap_append {units : List Nat} (small : ∀ unit ∈ units, unit < 0x10000)
    (nonzero : ∀ unit ∈ units, unit ≠ 0) {behind : Bytes} (ends : EndsText behind) :
    readUtf16 (units.flatMap writeUnit ++ behind) = String.ofList (decodeUnits units) := by
  have kept : ∀ unit ∈ units, decide (unit ≠ 0) = true :=
    fun unit listed => decide_eq_true (nonzero unit listed)
  unfold readUtf16
  rw [words16_flatMap_append small, List.takeWhile_append_of_pos kept,
    takeWhile_eq_nil_of_endsText ends, List.append_nil]

/-- A written text without the zero character is read back if it ends behind its bytes. -/
theorem readUtf16_writeUtf16_append {text : String} (solid : '\x00' ∉ text.toList)
    {behind : Bytes} (ends : EndsText behind) :
    readUtf16 (writeUtf16 text ++ behind) = text := by
  have small : ∀ unit ∈ text.toList.flatMap unitsOfChar, unit < 0x10000 := by
    intro unit member
    obtain ⟨c, -, ofChar⟩ := List.mem_flatMap.mp member
    exact lt_of_mem_unitsOfChar ofChar
  have nonzero : ∀ unit ∈ text.toList.flatMap unitsOfChar, unit ≠ 0 := by
    intro unit member
    obtain ⟨c, listed, ofChar⟩ := List.mem_flatMap.mp member
    exact ne_zero_of_mem_unitsOfChar (fun zero => solid (zero ▸ listed)) ofChar
  unfold writeUtf16
  rw [readUtf16_flatMap_append small nonzero ends, decodeUnits_flatMap, String.ofList_toList]

end DebugLens.Text
