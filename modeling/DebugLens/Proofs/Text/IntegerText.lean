import DebugLens.Number.Power
import DebugLens.Proofs.Text.Numeral
import DebugLens.Proofs.Text.Trim
import DebugLens.Text.IntegerLiteral

/-!
# Integers as text

An integer is written in decimal, if it does not have too many digits for that, or in hexadecimal
behind a base mark, with a minus sign if it is negative. The digits of hexadecimal may be in either
case and have zeros in front. A reader of integer literals reads the integer back from each of these
forms, and refuses decimal digits if there are too many.
-/
namespace DebugLens.Text

/-- The characters are digits of a number in hexadecimal, in either case. -/
inductive HexNumeral (number : Nat) : List Char → Prop
  /-- There may be zeros in front. -/
  | padded {digits : List Char} (zeros : Nat)
    (spelled : digits.map Char.toLower = List.replicate zeros '0' ++ Nat.toDigits 16 number) :
    HexNumeral number digits

/-- The characters spell a number. -/
inductive NumberText (number : Nat) : List Char → Prop
  /-- In decimal, with as many digits as a decimal numeral may have. -/
  | decimal (short : (Nat.toDigits 10 number).length ≤ greatestNumeral) :
    NumberText number (Nat.toDigits 10 number)
  /-- In hexadecimal behind a base mark. -/
  | hexadecimal {mark : Char} {digits : List Char} (base : mark = 'x' ∨ mark = 'X')
    (numeral : HexNumeral number digits) : NumberText number ('0' :: mark :: digits)

/-- The characters spell an integer. -/
inductive IntegerText : Int → List Char → Prop
  /-- An integer that is not negative is spelled as a number. -/
  | unsigned {number : Nat} {spelled : List Char} (written : NumberText number spelled) :
    IntegerText number spelled
  /-- A negative one is spelled with a minus sign. -/
  | negative {number : Nat} {spelled : List Char} (positive : 0 < number)
    (written : NumberText number spelled) : IntegerText (-number) ('-' :: spelled)

/-! ## Digits -/

/-- The values of digits in a base. -/
def digitValues? (base : Nat) (digits : List Char) : Option (List Nat) :=
  digits.mapM (digitBelow? base)

/-- Digits without underscores are read one by one. -/
theorem separatedDigits_eq {base : Nat} {digits : List Char} (given : digits ≠ [])
    (joined : '_' ∉ digits) : separatedDigits base digits = digitValues? base digits := by
  unfold digitValues?
  fun_induction separatedDigits base digits with
  | case1 => contradiction
  | case2 c => cases value : digitBelow? base c <;> simp [value]
  | case3 c rest => simp at joined
  | case4 c rest filled other hypothesis =>
    have rejoined : '_' ∉ rest := fun listed => joined (List.mem_cons_of_mem c listed)
    rw [List.mapM_cons, hypothesis (by simpa using filled) rejoined]

/-- Every digit has one value. -/
theorem length_digitValues? {base : Nat} {digits : List Char} {values : List Nat}
    (read : digitValues? base digits = some values) : values.length = digits.length := by
  unfold digitValues? at read
  induction digits generalizing values with
  | nil =>
    obtain rfl := Option.some.inj read
    rfl
  | cons c digits hypothesis =>
    rw [List.mapM_cons] at read
    obtain ⟨value, -, rest⟩ := Option.bind_eq_some_iff.mp read
    obtain ⟨others, each, last⟩ := Option.bind_eq_some_iff.mp rest
    obtain rfl := Option.some.inj last
    rw [List.length_cons, List.length_cons, hypothesis each]

/-- A digit is read as its value. -/
theorem digitBelow?_digitChar {base digit : Nat} (small : base ≤ 16) (below : digit < base) :
    digitBelow? base digit.digitChar = some digit := by
  have value : hexDigit? digit.digitChar = some digit := by
    have all : ∀ digit < 16, hexDigit? digit.digitChar = some digit := by decide
    exact all digit (Nat.lt_of_lt_of_le below small)
  simp [digitBelow?, value, below]

/-- A digit behind others counts once, and the others count as often as the base. -/
theorem ofDigits_append_singleton (base : Nat) (digits : List Nat) (last : Nat) :
    ofDigits base (digits ++ [last]) = ofDigits base digits * base + last := List.foldl_concat ..

/-- Zeros in front do not count. -/
theorem ofDigits_replicate_append (base zeros : Nat) (digits : List Nat) :
    ofDigits base (List.replicate zeros 0 ++ digits) = ofDigits base digits := by
  induction zeros with
  | zero => rfl
  | succ zeros hypothesis =>
    unfold ofDigits at hypothesis ⊢
    rw [List.replicate_succ, List.cons_append, List.foldl_cons, Nat.zero_mul, Nat.zero_add]
    exact hypothesis

/-- The digits of a number have its value. -/
theorem exists_digitValues {base : Nat} (large : 1 < base) (small : base ≤ 16) (number : Nat) :
    ∃ values, digitValues? base (Nat.toDigits base number) = some values ∧
      ofDigits base values = number := by
  induction number using Nat.strongRecOn with
  | ind number hypothesis =>
    rw [Nat.toDigits_eq_if large]
    split
    · next below =>
      have read : digitValues? base [number.digitChar] = some [number] := by
        simp [digitValues?, digitBelow?_digitChar small below]
      exact ⟨[number], read, by simp [ofDigits]⟩
    · next above =>
      have shrinks : number / base < number := Nat.div_lt_self (by omega) large
      obtain ⟨values, read, value⟩ := hypothesis _ shrinks
      have last : number % base < base := Nat.mod_lt _ (by omega)
      unfold digitValues? at read ⊢
      refine ⟨values ++ [number % base], ?_, ?_⟩
      · simp [List.mapM_append, read, digitBelow?_digitChar small last]
      · rw [ofDigits_append_singleton, value, Nat.div_add_mod']

/-! ## Hexadecimal numerals -/

/-- Zeros have the value zero. -/
theorem digitValues?_replicate (zeros : Nat) :
    digitValues? 16 (List.replicate zeros '0') = some (List.replicate zeros 0) := by
  unfold digitValues?
  induction zeros with
  | zero => rfl
  | succ zeros hypothesis =>
    rw [List.replicate_succ, List.mapM_cons, hypothesis]
    rfl

/-- Letter case does not matter to the values of digits. -/
theorem digitValues?_toLower (base : Nat) (digits : List Char) :
    digitValues? base (digits.map Char.toLower) = digitValues? base digits := by
  unfold digitValues?
  rw [List.mapM_map]
  congr 1
  funext c
  simp only [Function.comp_apply, digitBelow?, hexDigit?_toLower]

namespace HexNumeral

variable {number : Nat} {digits : List Char}

/-- The digits are those of the number, but for letter case and zeros in front. -/
theorem lowered (numeral : HexNumeral number digits) :
    ∃ zeros, digits.map Char.toLower = List.replicate zeros '0' ++ Nat.toDigits 16 number := by
  obtain ⟨zeros, spelled⟩ := numeral
  exact ⟨zeros, spelled⟩

/-- There are digits. -/
theorem ne_nil (numeral : HexNumeral number digits) : digits ≠ [] := by
  obtain ⟨zeros, spelled⟩ := numeral
  rintro rfl
  simp at spelled

/-- What holds of all digits of numbers, whatever their letter case, holds of the digits. -/
theorem forall_mem (numeral : HexNumeral number digits) (holds : Char → Bool)
    (capitals : ∀ code < 91, 65 ≤ code → holds (Char.ofNat code).toLower = holds (Char.ofNat code))
    (values : ∀ value < 16, holds value.digitChar) : ∀ c ∈ digits, holds c := by
  obtain ⟨zeros, spelled⟩ := numeral
  intro c listed
  have among : c.toLower ∈ List.replicate zeros '0' ++ Nat.toDigits 16 number :=
    spelled ▸ List.mem_map_of_mem listed
  rw [← eq_of_capitals holds capitals]
  rcases List.mem_append.mp among with zero | digit
  · rw [(List.mem_replicate.mp zero).2]
    exact values 0 (by decide)
  · obtain ⟨value, small, same⟩ := exists_of_mem_toDigits (by decide) digit
    rw [same]
    exact values value small

/-- There are no underscores between the digits. -/
theorem not_mem_underscore (numeral : HexNumeral number digits) : '_' ∉ digits := by
  have solid := numeral.forall_mem (fun c => c ≠ '_') (by decide) (by decide)
  intro listed
  simpa using solid '_' listed

/-- The digits are read as the number. -/
theorem readNumeral_eq (numeral : HexNumeral number digits) :
    readNumeral 16 digits = some number := by
  obtain ⟨zeros, spelled⟩ := numeral.lowered
  obtain ⟨values, read, value⟩ : ∃ values, digitValues? 16 (Nat.toDigits 16 number) = some values ∧
      ofDigits 16 values = number := exists_digitValues (by decide) (by decide) number
  have padding := digitValues?_replicate zeros
  have all : digitValues? 16 digits = some (List.replicate zeros 0 ++ values) := by
    rw [← digitValues?_toLower, spelled]
    unfold digitValues? at padding read ⊢
    simp [List.mapM_append, padding, read]
  unfold readNumeral
  rw [separatedDigits_eq numeral.ne_nil numeral.not_mem_underscore, all, Option.map_some,
    ofDigits_replicate_append, value]

/-- Behind a base mark, the digits are read as the number, too. -/
theorem readMarked_eq (numeral : HexNumeral number digits) :
    readMarked 16 digits = some number := by
  have joined := numeral.not_mem_underscore
  unfold readMarked
  split
  · simp at joined
  · exact numeral.readNumeral_eq

end HexNumeral

/-! ## Numbers -/

/-- A zero begins no other number than zero. -/
theorem eq_zero_of_toDigits {base : Nat} (large : 1 < base) (small : base ≤ 16) {number : Nat}
    {rest : List Char} (begins : Nat.toDigits base number = '0' :: rest) : number = 0 := by
  induction number using Nat.strongRecOn generalizing rest with
  | ind number hypothesis =>
    rw [Nat.toDigits_eq_if large] at begins
    split at begins
    · next below =>
      have first := (List.cons.inj begins).1
      have all : ∀ digit < 16, digit.digitChar = '0' → digit = 0 := by decide
      exact all number (by omega) first
    · next above =>
      have shrinks : number / base < number := Nat.div_lt_self (by omega) large
      have filled : Nat.toDigits base (number / base) ≠ [] := Nat.toDigits_ne_nil
      obtain ⟨first, others, front⟩ := List.exists_cons_of_ne_nil filled
      rw [front, List.cons_append] at begins
      have zero : number / base = 0 :=
        hypothesis (number / base) shrinks ((List.cons.inj begins).1 ▸ front)
      have positive : 0 < number / base := Nat.div_pos (Nat.not_lt.mp above) (by omega)
      omega

/-- A power of ten has more digits than its exponent says. -/
theorem lt_length_toDigits_tenTo {places : Nat} (positive : 0 < places) :
    places < (Nat.toDigits 10 (tenTo places)).length := by
  refine Nat.not_le.mp fun few => ?_
  have below : tenTo places < tenTo places :=
    (Nat.length_toDigits_le_iff (by decide) positive).mp few
  exact Nat.lt_irrefl _ below

/-- What holds of the decimal digits holds of those of a number. -/
theorem forall_mem_toDigits (number : Nat) (holds : Char → Bool)
    (values : ∀ value < 10, holds value.digitChar) : ∀ c ∈ Nat.toDigits 10 number, holds c := by
  intro c listed
  obtain ⟨value, small, rfl⟩ := exists_of_mem_toDigits (by decide) listed
  exact values value small

/-- The decimal digits of a number are read as the number, unless there are too many. -/
theorem readDecimal_toDigits (number : Nat) :
    readDecimal (Nat.toDigits 10 number) =
      if (Nat.toDigits 10 number).length ≤ greatestNumeral then some number else none := by
  have joined : '_' ∉ Nat.toDigits 10 number := by
    have solid := forall_mem_toDigits number (fun c => c ≠ '_') (by decide)
    intro listed
    simpa using solid '_' listed
  obtain ⟨values, read, value⟩ : ∃ values,
      digitValues? 10 (Nat.toDigits 10 number) = some values ∧ ofDigits 10 values = number :=
    exists_digitValues (by decide) (by decide) number
  have count := length_digitValues? read
  unfold readDecimal
  rw [separatedDigits_eq Nat.toDigits_ne_nil joined, read, Option.bind_some, ← count]
  split
  · next short =>
    rw [decimalValue_of_short short, value]
    rfl
  · next long =>
    rw [decimalValue_of_long (Nat.not_le.mp long)]
    rfl

/-- No base mark and no other zero stands in front of the decimal digits of a number. -/
theorem readMagnitude_toDigits (number : Nat) :
    readMagnitude (Nat.toDigits 10 number) =
      if (Nat.toDigits 10 number).length ≤ greatestNumeral then some number else none := by
  obtain ⟨first, others, front⟩ :=
    List.exists_cons_of_ne_nil (Nat.toDigits_ne_nil : Nat.toDigits 10 number ≠ [])
  by_cases zero : first = '0'
  · obtain rfl : number = 0 := eq_zero_of_toDigits (by decide) (by decide) (zero ▸ front)
    rfl
  · have numeral := readDecimal_toDigits number
    rw [front] at numeral ⊢
    have plain : readMagnitude (first :: others) = readDecimalNumeral (first :: others) := by
      unfold readMagnitude
      split
      · next same => exact absurd (List.cons.inj same).1 zero
      · rfl
    rw [plain]
    unfold readDecimalNumeral
    split
    · next same => exact absurd (List.cons.inj same).1 zero
    · exact numeral

/-! ## Literals -/

/-- Characters of ASCII stand for themselves. -/
theorem mapM_literalChar? {spelled : List Char} (ascii : ∀ c ∈ spelled, c.toNat < 127) :
    (spelled.map CodePoint.char).mapM literalChar? = some spelled := by
  induction spelled with
  | nil => rfl
  | cons c spelled hypothesis =>
    obtain ⟨first, others⟩ := List.forall_mem_cons.mp ascii
    have same : literalChar? (.char c) = some c := if_pos first
    rw [List.map_cons, List.mapM_cons, same, hypothesis others]
    rfl

/-- Characters of ASCII without white space among them are read as they are. -/
theorem readInteger_of_solid {spelled : List Char}
    (each : ∀ c ∈ spelled, (decide (c.toNat < 127) && !isAsciiBlank c) = true) :
    readInteger (spelled.map .char) = readSigned spelled := by
  have ascii : ∀ c ∈ spelled, c.toNat < 127 := fun c listed => by
    have both := each c listed
    rw [Bool.and_eq_true, decide_eq_true_eq] at both
    exact both.1
  have solid : ∀ c ∈ spelled, isAsciiBlank c = false := fun c listed => by
    have both := each c listed
    rw [Bool.and_eq_true, Bool.not_eq_true'] at both
    exact both.2
  unfold readInteger
  rw [mapM_literalChar? ascii, Option.bind_eq_bind, Option.bind_some, trimBoth_eq_self solid]

/-- Characters without a sign among them are read as a number. -/
theorem readSigned_of_unsigned {spelled : List Char}
    (unsigned : ∀ c ∈ spelled, (decide (c ≠ '-') && decide (c ≠ '+')) = true) :
    readSigned spelled = (readMagnitude spelled).map fun magnitude => (magnitude : Int) := by
  unfold readSigned
  split
  · simp at unsigned
  · simp at unsigned
  · rfl

/-- The decimal digits of a number are a literal of the number, unless there are too many. -/
theorem readInteger_toDigits (number : Nat) :
    readInteger ((Nat.toDigits 10 number).map .char) =
      if (Nat.toDigits 10 number).length ≤ greatestNumeral then some (number : Int) else none := by
  have solid := forall_mem_toDigits number
    (fun c => decide (c.toNat < 127) && !isAsciiBlank c) (by decide)
  have unsigned := forall_mem_toDigits number (fun c => c ≠ '-' && c ≠ '+') (by decide)
  rw [readInteger_of_solid solid, readSigned_of_unsigned unsigned, readMagnitude_toDigits]
  split <;> rfl

namespace NumberText

variable {number : Nat} {spelled : List Char}

/-- What holds of digits and base marks holds of the characters that spell a number. -/
theorem forall_mem (written : NumberText number spelled) (holds : Char → Bool)
    (capitals : ∀ code < 91, 65 ≤ code → holds (Char.ofNat code).toLower = holds (Char.ofNat code))
    (values : ∀ value < 16, holds value.digitChar) (mark : holds 'x') :
    ∀ c ∈ spelled, holds c := by
  cases written with
  | decimal short =>
    exact forall_mem_toDigits number holds fun value small => values value (by omega)
  | hexadecimal base numeral =>
    have capital : holds 'X' := (capitals 88 (by decide) (by decide)).symm.trans mark
    have zero : holds '0' := values 0 (by decide)
    refine List.forall_mem_cons.mpr ⟨zero, List.forall_mem_cons.mpr ⟨?_, ?_⟩⟩
    · rcases base with rfl | rfl
      · exact mark
      · exact capital
    · exact numeral.forall_mem holds capitals values

/-- A number that is spelled is read back. -/
theorem readMagnitude_eq (written : NumberText number spelled) :
    readMagnitude spelled = some number := by
  cases written with
  | decimal short => rw [readMagnitude_toDigits, if_pos short]
  | hexadecimal base numeral =>
    unfold readMagnitude
    rcases base with rfl | rfl
    · exact numeral.readMarked_eq
    · exact numeral.readMarked_eq

/-- A number that is spelled has no sign. -/
theorem readSigned_eq (written : NumberText number spelled) :
    readSigned spelled = some (number : Int) := by
  have unsigned := written.forall_mem (fun c => c ≠ '-' && c ≠ '+') (by decide) (by decide) rfl
  rw [readSigned_of_unsigned unsigned, written.readMagnitude_eq]
  rfl

end NumberText

namespace IntegerText

variable {value : Int} {spelled : List Char}

/-- The characters of an integer are of ASCII, and there is no white space. -/
theorem forall_mem (written : IntegerText value spelled) :
    ∀ c ∈ spelled, (decide (c.toNat < 127) && !isAsciiBlank c) = true := by
  cases written with
  | unsigned written =>
    exact written.forall_mem (fun c => decide (c.toNat < 127) && !isAsciiBlank c)
      (by decide) (by decide) rfl
  | negative positive written =>
    refine List.forall_mem_cons.mpr ⟨by decide, ?_⟩
    exact written.forall_mem (fun c => decide (c.toNat < 127) && !isAsciiBlank c)
      (by decide) (by decide) rfl

/-- A sign in front of a number makes it negative. -/
theorem readSigned_eq (written : IntegerText value spelled) : readSigned spelled = some value := by
  cases written with
  | unsigned written => exact written.readSigned_eq
  | negative positive written =>
    have magnitude := written.readMagnitude_eq
    simp [readSigned, magnitude]

/-- A spelled integer is read back. -/
theorem readInteger_eq (written : IntegerText value spelled) :
    readInteger (spelled.map .char) = some value := by
  rw [readInteger_of_solid written.forall_mem]
  exact written.readSigned_eq

end IntegerText

end DebugLens.Text
