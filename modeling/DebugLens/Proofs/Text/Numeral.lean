import DebugLens.Text.Digit
import DebugLens.Text.Hex

/-!
# Numerals that are read back

Bytes in hexadecimal and numbers in decimal are written in ASCII letters and digits, and the
readers of either notation read back what was written.
-/
namespace DebugLens.Text

/-- A text of characters holds just these. -/
theorem characters_ofString (string : String) : characters (ofString string) = string.toList := by
  unfold characters ofString
  rw [List.filterMap_map]
  exact List.filterMap_some

/-- The digits of a number stand for less than its base. -/
theorem exists_of_mem_toDigits {base : Nat} (large : 1 < base) {number : Nat} {c : Char}
    (listed : c ∈ Nat.toDigits base number) : ∃ digit < base, c = digit.digitChar := by
  induction number using Nat.strongRecOn with
  | ind number hypothesis =>
    rw [Nat.toDigits_eq_if large] at listed
    split at listed
    · next small => exact ⟨number, small, List.mem_singleton.mp listed⟩
    · next tall =>
      have filled : 0 < number := Nat.lt_of_lt_of_le (Nat.zero_lt_of_lt large) (Nat.not_lt.mp tall)
      rcases List.mem_append.mp listed with front | last
      · exact hypothesis _ (Nat.div_lt_self filled large) front
      · exact ⟨_, Nat.mod_lt _ (Nat.zero_lt_of_lt large), List.mem_singleton.mp last⟩

/-- A character of the text of a string is one of the string. -/
theorem mem_ofString {string : String} {c : CodePoint} (listed : c ∈ ofString string) :
    ∃ d ∈ string.toList, c = .char d := by
  obtain ⟨d, among, rfl⟩ := List.mem_map.mp listed
  exact ⟨d, among, rfl⟩

section Hexadecimal

/-- A digit is read as its value. -/
theorem hexDigit?_hexDigitLower {digit : Nat} (small : digit < 16) :
    hexDigit? (hexDigitLower digit) = some digit := by
  have all : ∀ digit < 16, hexDigit? (hexDigitLower digit) = some digit := by decide
  exact all digit small

/-- A byte is written in two digits. -/
theorem toList_writeHex_cons (byte : UInt8) (bytes : Bytes) :
    (writeHex (byte :: bytes)).toList =
      hexDigitLower (byte.toNat / 16) :: hexDigitLower (byte.toNat % 16) ::
        (writeHex bytes).toList := by
  simp [writeHex]

/-- Bytes are written in digits. -/
theorem mem_writeHex {bytes : Bytes} {c : Char} (listed : c ∈ (writeHex bytes).toList) :
    ∃ digit < 16, c = hexDigitLower digit := by
  induction bytes with
  | nil => exact absurd listed (List.not_mem_nil)
  | cons byte bytes hypothesis =>
    have bound := byte.toNat_lt
    rw [toList_writeHex_cons, List.mem_cons, List.mem_cons] at listed
    rcases listed with rfl | rfl | later
    · exact ⟨_, by omega, rfl⟩
    · exact ⟨_, by omega, rfl⟩
    · exact hypothesis later

/-- Bytes have digits if there are any. -/
theorem writeHex_ne_nil {bytes : Bytes} (given : bytes ≠ []) : (writeHex bytes).toList ≠ [] := by
  cases bytes with
  | nil => contradiction
  | cons byte bytes =>
    rw [toList_writeHex_cons]
    exact List.cons_ne_nil _ _

/-- From any position, written bytes are read back. -/
theorem readHexPairs_writeHex (position : Nat) (bytes : Bytes) :
    readHexPairs position (writeHex bytes).toList = .ok bytes := by
  induction bytes generalizing position with
  | nil => rfl
  | cons byte bytes hypothesis =>
    have bound := byte.toNat_lt
    have high : byte.toNat / 16 < 16 := by omega
    have low : byte.toNat % 16 < 16 := by omega
    have unblank : isAsciiBlank (hexDigitLower (byte.toNat / 16)) = false := by
      have all : ∀ digit < 16, isAsciiBlank (hexDigitLower digit) = false := by decide
      exact all _ high
    have whole : UInt8.ofNat (byte.toNat / 16 * 16 + byte.toNat % 16) = byte := by
      rw [Nat.div_add_mod', UInt8.ofNat_toNat]
    rw [toList_writeHex_cons]
    unfold readHexPairs
    simp only [unblank, Bool.false_eq_true, if_false, hexDigit?_hexDigitLower high,
      hexDigit?_hexDigitLower low, hypothesis, whole]
    rfl

end Hexadecimal

section LetterCase

/-- A character that is no capital letter from A to Z has one case only. -/
theorem toLower_eq_self {c : Char} (other : ¬(65 ≤ c.toNat ∧ c.toNat < 91)) : c.toLower = c := by
  unfold Char.toLower
  rw [dif_neg]
  rintro ⟨above, below⟩
  rw [ge_iff_le, UInt32.le_iff_toNat_le] at above
  rw [UInt32.le_iff_toNat_le] at below
  exact other ⟨above, Nat.lt_succ_of_le below⟩

/-- What holds of every capital letter and of every character that is none holds of all. -/
theorem eq_of_capitals {α : Type} (read : Char → α)
    (capitals : ∀ code < 91, 65 ≤ code → read (Char.ofNat code).toLower = read (Char.ofNat code))
    (c : Char) : read c.toLower = read c := by
  by_cases range : 65 ≤ c.toNat ∧ c.toNat < 91
  · have same := capitals c.toNat range.2 range.1
    rwa [Char.ofNat_toNat] at same
  · rw [toLower_eq_self range]

/-- Letter case does not matter to a digit. -/
theorem hexDigit?_toLower (c : Char) : hexDigit? c.toLower = hexDigit? c :=
  eq_of_capitals _ (by decide) c

/-- White space has one letter case. -/
theorem isAsciiBlank_toLower (c : Char) : isAsciiBlank c.toLower = isAsciiBlank c :=
  eq_of_capitals _ (by decide) c

/-- Nor does it matter to pairs of digits. -/
theorem readHexPairs_toLower (position : Nat) (digits : List Char) :
    readHexPairs position (digits.map Char.toLower) = readHexPairs position digits := by
  fun_induction readHexPairs position digits with
  | case1 => rfl
  | case2 position c rest blank hypothesis =>
    rw [List.map_cons, readHexPairs.eq_def]
    simp [isAsciiBlank_toLower, blank, hypothesis]
  | case3 position c rest solid unread =>
    simp [readHexPairs, isAsciiBlank_toLower, hexDigit?_toLower, solid, unread]
  | case4 position c solid high first =>
    simp [readHexPairs, isAsciiBlank_toLower, hexDigit?_toLower, solid, first]
  | case5 position c solid high d rest first unread =>
    simp [readHexPairs, isAsciiBlank_toLower, hexDigit?_toLower, solid, first, unread]
  | case6 position c solid high d rest first low second hypothesis =>
    simp [readHexPairs, isAsciiBlank_toLower, hexDigit?_toLower, solid, first, second, hypothesis]

/-- Bytes in hexadecimal of either case are read back. -/
theorem readHex_of_toLower {digits : List Char} {bytes : Bytes}
    (spelled : digits.map Char.toLower = (writeHex bytes).toList) :
    readHex (digits.map .char) = .ok bytes := by
  have ascii : (digits.map CodePoint.char).findIdx? (fun c => c.toNat ≥ 128) = none := by
    rw [List.findIdx?_eq_none_iff]
    intro c listed
    obtain ⟨d, among, rfl⟩ := List.mem_map.mp listed
    have lowered : d.toLower ∈ (writeHex bytes).toList := spelled ▸ List.mem_map_of_mem among
    obtain ⟨digit, small, same⟩ := mem_writeHex lowered
    have all : ∀ digit < 16, decide ((hexDigitLower digit).toNat ≥ 128) = false := by decide
    have kept : decide (d.toLower.toNat ≥ 128) = decide (d.toNat ≥ 128) :=
      eq_of_capitals (fun c => decide (c.toNat ≥ 128)) (by decide) d
    rw [same, all digit small] at kept
    exact kept.symm
  have characters : Text.characters (digits.map .char) = digits := by
    unfold Text.characters
    rw [List.filterMap_map]
    exact List.filterMap_some
  unfold readHex
  rw [ascii, characters]
  dsimp only
  rw [← readHexPairs_toLower, spelled]
  exact readHexPairs_writeHex 0 bytes

/-- Bytes are written in lower case. -/
theorem map_toLower_writeHex (bytes : Bytes) :
    (writeHex bytes).toList.map Char.toLower = (writeHex bytes).toList := by
  have same : ∀ c ∈ (writeHex bytes).toList, c.toLower = c := by
    intro c listed
    obtain ⟨digit, small, rfl⟩ := mem_writeHex listed
    have all : ∀ digit < 16, (hexDigitLower digit).toLower = hexDigitLower digit := by decide
    exact all digit small
  rw [List.map_congr_left same, List.map_id']

/-- Written bytes are read back. -/
theorem readHex_writeHex (bytes : Bytes) : readHex (ofString (writeHex bytes)) = .ok bytes :=
  readHex_of_toLower (map_toLower_writeHex bytes)

end LetterCase

section Decimal

/-- An ASCII digit is a decimal digit with its distance from zero as its value. -/
theorem decimalDigit?_char {c : Char} (digit : c.isDigit) :
    decimalDigit? (.char c) = some (c.toNat - '0'.toNat) := by
  have inRun : (0x30 ≤ c.toNat && c.toNat < 0x30 + 10) = true := by
    simp only [Char.isDigit, Bool.and_eq_true, decide_eq_true_eq, ge_iff_le,
      UInt32.le_iff_toNat_le] at digit ⊢
    exact ⟨digit.1, Nat.lt_succ_of_le digit.2⟩
  have found : digitZeros.find? (fun first => first ≤ c.toNat && c.toNat < first + 10) =
      some 0x30 := List.find?_cons_of_pos inRun
  exact congrArg (Option.map (c.toNat - ·)) found

/-- The digits of a number are read one by one. -/
theorem mapM_decimalDigit? {digits : List Char} (decimal : ∀ c ∈ digits, c.isDigit) :
    (digits.map CodePoint.char).mapM decimalDigit? =
      some (digits.map fun c => c.toNat - '0'.toNat) := by
  induction digits with
  | nil => rfl
  | cons c digits hypothesis =>
    rw [List.forall_mem_cons] at decimal
    rw [List.map_cons, List.mapM_cons, decimalDigit?_char decimal.1, hypothesis decimal.2]
    rfl

/-- The digits of a number have its value. -/
theorem ofDigits_toDigits (number : Nat) :
    ofDigits 10 ((Nat.toDigits 10 number).map fun c => c.toNat - '0'.toNat) = number := by
  have read := Nat.ofDigitChars_toDigits (n := number) (b := 10) (by decide) (by decide)
  unfold ofDigits
  rw [List.foldl_map]
  refine Eq.trans ?_ read
  unfold Nat.ofDigitChars
  simp only [Nat.mul_comm]

/-- A numeral has its value if it is not too long. -/
theorem decimalValue_of_short {digits : List Nat} (short : digits.length ≤ greatestNumeral) :
    decimalValue digits = .ok (ofDigits 10 digits) := if_pos short

/-- A numeral that is too long is refused with its number of digits. -/
theorem decimalValue_of_long {digits : List Nat} (long : greatestNumeral < digits.length) :
    decimalValue digits = .error ⟨digits.length⟩ := if_neg (Nat.not_le.mpr long)

/-- So has a numeral in ASCII digits. -/
theorem asciiValue_of_short {digits : List Char} (short : digits.length ≤ greatestNumeral) :
    asciiValue digits = .ok (asciiNumeral digits) :=
  decimalValue_of_short (by rwa [List.length_map])

/-- A numeral in ASCII digits that is too long is refused with their number, too. -/
theorem asciiValue_of_long {digits : List Char} (long : greatestNumeral < digits.length) :
    asciiValue digits = .error ⟨digits.length⟩ := by
  unfold asciiValue
  rw [decimalValue_of_long (by rwa [List.length_map]), List.length_map]

/-- The digits of a number are read as the number if there are not too many. -/
theorem asciiValue_toDigits {number : Nat}
    (short : (Nat.toDigits 10 number).length ≤ greatestNumeral) :
    asciiValue (Nat.toDigits 10 number) = .ok number := by
  rw [asciiValue_of_short short, asciiNumeral, ofDigits_toDigits]

end Decimal

end DebugLens.Text
