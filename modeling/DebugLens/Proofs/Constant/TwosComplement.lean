import Mathlib.Algebra.Order.Ring.Int
import Mathlib.Data.Int.ModEq
import DebugLens.Constant.Conversion

/-!
# Integral constants

An integral constant is stored as a number of its width, signed or unsigned, whatever its type is.
It stands for the number of its type with the same bits: the only one that is congruent to the
stored number modulo the number of bit patterns. So nothing is lost when a constant is converted
again, or to the type of the same width with the other signedness and back.
-/
namespace DebugLens

namespace IntegralType

variable {type : IntegralType}

/-- The number is one of the type. -/
def Contains (type : IntegralType) (value : Int) : Prop :=
  if type.signed then -(2 ^ (type.bits - 1)) ≤ value ∧ value < 2 ^ (type.bits - 1)
  else 0 ≤ value ∧ value < 2 ^ type.bits

instance (value : Int) : Decidable (type.Contains value) :=
  inferInstanceAs (Decidable (if type.signed then _ ∧ _ else _ ∧ _))

/-- The number is one of the type or of the type with the other signedness, or between them. -/
def Accepts (type : IntegralType) (value : Int) : Prop :=
  -(2 ^ (type.bits - 1)) ≤ value ∧ value < 2 ^ type.bits

instance (value : Int) : Decidable (type.Accepts value) := inferInstanceAs (Decidable (_ ∧ _))

/-- The type of the same width with the other signedness. -/
def counterpart (type : IntegralType) : IntegralType := { type with signed := !type.signed }

/-- The modulus of a type is a power of two. -/
theorem modulus_eq (type : IntegralType) : type.modulus = 2 ^ type.bits := Nat.cast_pow 2 type.bits

/-- Half of the modulus is the power of two before it. -/
theorem half_eq (type : IntegralType) : type.half = 2 ^ (type.bits - 1) :=
  Nat.cast_pow 2 (type.bits - 1)

/-- The sign bit halves the bit patterns. -/
theorem pow_halves (wide : 0 < type.bits) :
    0 < (2 : Int) ^ (type.bits - 1) ∧ (2 : Int) ^ type.bits = 2 * 2 ^ (type.bits - 1) := by
  have width : type.bits - 1 + 1 = type.bits := by omega
  have doubled := pow_succ' (2 : Int) (type.bits - 1)
  rw [width] at doubled
  exact ⟨Int.pow_pos (by decide), doubled⟩

/-- The numbers of a type are accepted for it, and also for its counterpart. -/
theorem Contains.accepted (wide : 0 < type.bits) {value : Int} (inside : type.Contains value) :
    type.Accepts value := by
  have halves := pow_halves wide
  unfold Contains at inside
  unfold Accepts
  split at inside <;> omega

/-- Congruent numbers of a type are equal. -/
theorem Contains.eq_of_modEq (wide : 0 < type.bits) {left right : Int}
    (first : type.Contains left) (second : type.Contains right)
    (congruent : left ≡ right [ZMOD 2 ^ type.bits]) : left = right := by
  have halves := pow_halves wide
  have divides : (2 : Int) ^ type.bits ∣ right - left := congruent.dvd
  have near : |right - left| < 2 ^ type.bits := by
    unfold Contains at first second
    rw [abs_lt]
    by_cases signed : type.signed
    · rw [if_pos signed] at first second
      omega
    · rw [if_neg signed] at first second
      omega
  have same := Int.eq_zero_of_abs_lt_dvd divides near
  omega

/-- An accepted number is read as its residue, or as the negative number with that residue if the
sign bit is set. -/
theorem wrap?_eq (type : IntegralType) (stored : Int) :
    type.wrap? stored =
      if type.Accepts stored then
        if type.signed ∧ 2 ^ (type.bits - 1) ≤ stored % 2 ^ type.bits then
          some (stored % 2 ^ type.bits - 2 ^ type.bits)
        else some (stored % 2 ^ type.bits)
      else none := by
  rw [wrap?, modulus_eq, half_eq]
  rfl

/-- An accepted number is read as a number of the type with the same bits. -/
theorem exists_wrap? (wide : 0 < type.bits) {stored : Int} (accepted : type.Accepts stored) :
    ∃ value, type.wrap? stored = some value ∧ type.Contains value ∧
      value ≡ stored [ZMOD 2 ^ type.bits] := by
  have halves := pow_halves wide
  have residue := Int.mod_modEq stored (2 ^ type.bits)
  have positive : (0 : Int) < 2 ^ type.bits := by omega
  have least := Int.emod_nonneg stored (Int.ne_of_gt positive)
  have greatest := Int.emod_lt_of_pos stored positive
  rw [wrap?_eq, if_pos accepted]
  by_cases negative : type.signed ∧ 2 ^ (type.bits - 1) ≤ stored % 2 ^ type.bits
  · refine ⟨_, if_pos negative, ?_, ?_⟩
    · rw [Contains, if_pos negative.1]
      omega
    · exact (Int.modEq_sub_modulus_iff.mpr residue.symm).symm
  · refine ⟨_, if_neg negative, ?_, residue⟩
    unfold Contains
    split
    · next signed =>
      have small : ¬2 ^ (type.bits - 1) ≤ stored % 2 ^ type.bits := fun large =>
        negative ⟨signed, large⟩
      omega
    · exact ⟨least, greatest⟩

/-- A number is read as another exactly if it is accepted and the other one is the number of the
type with the same bits. -/
theorem wrap?_eq_some_iff (wide : 0 < type.bits) {stored value : Int} :
    type.wrap? stored = some value ↔
      type.Accepts stored ∧ type.Contains value ∧ value ≡ stored [ZMOD 2 ^ type.bits] := by
  constructor
  · intro read
    have accepted : type.Accepts stored := by
      by_contra refused
      rw [wrap?_eq, if_neg refused] at read
      contradiction
    obtain ⟨found, same, inside, congruent⟩ := exists_wrap? wide accepted
    obtain rfl := Option.some.inj (same.symm.trans read)
    exact ⟨accepted, inside, congruent⟩
  · rintro ⟨accepted, inside, congruent⟩
    obtain ⟨found, read, contained, same⟩ := exists_wrap? wide accepted
    rw [read, contained.eq_of_modEq wide inside (same.trans congruent.symm)]

/-- A number is refused exactly if it is not accepted. -/
theorem wrap?_eq_none_iff (wide : 0 < type.bits) {stored : Int} :
    type.wrap? stored = none ↔ ¬type.Accepts stored := by
  constructor
  · intro refused accepted
    obtain ⟨value, read, -⟩ := exists_wrap? wide accepted
    rw [refused] at read
    contradiction
  · intro refused
    rw [wrap?_eq, if_neg refused]

/-- A number of the type is read as itself. -/
theorem wrap?_of_contains (wide : 0 < type.bits) {value : Int} (inside : type.Contains value) :
    type.wrap? value = some value :=
  (wrap?_eq_some_iff wide).mpr ⟨inside.accepted wide, inside, Int.ModEq.refl value⟩

/-- A number of the type is read back after it was read as one of the counterpart. -/
theorem wrap?_counterpart (wide : 0 < type.bits) {value : Int} (inside : type.Contains value) :
    ∃ crossed, type.counterpart.wrap? value = some crossed ∧ type.wrap? crossed = some value := by
  have alsoWide : 0 < type.counterpart.bits := wide
  have accepted : type.counterpart.Accepts value := inside.accepted wide
  obtain ⟨crossed, read, contained, congruent⟩ := exists_wrap? alsoWide accepted
  have back : type.Accepts crossed := contained.accepted alsoWide
  exact ⟨crossed, read, (wrap?_eq_some_iff wide).mpr ⟨back, inside, congruent.symm⟩⟩

end IntegralType

/-- Every integral type has bits. -/
theorem SpecialType.integral?_wide {special : SpecialType} {type : IntegralType}
    (integral : special.integral? = some type) : 0 < type.bits := by
  cases special <;>
    simp only [SpecialType.integral?, Option.some.injEq, reduceCtorEq] at integral <;>
    rw [← integral] <;> decide

/-- An integer is converted to a constant of an integral type by its bits. -/
theorem TypeSymbol.constant_integral {symbol : TypeSymbol} {type : IntegralType}
    (integral : symbol.representation.special.integral? = some type) (stored : Int) :
    symbol.constant (.integer stored) =
      match type.wrap? stored with
      | some value => .ok (.integer value)
      | none => .error .unacceptable := by
  simp only [TypeSymbol.constant, constantOf, integral]
  rfl

/-- An integer is refused for an integral type exactly if it is neither a signed nor an unsigned
number of its width nor between them. Any other is converted to the only number of the type that
is congruent to it modulo the number of bit patterns; converting that one again gives it back, and
so does converting it to a type of the same width with the other signedness and from there back. -/
theorem integralConstant_exact (symbol : TypeSymbol) (type : IntegralType)
    (integral : symbol.representation.special.integral? = some type) (stored : Int) :
    (symbol.constant (.integer stored) = .error .unacceptable ↔
      stored < -(2 ^ (type.bits - 1)) ∨ 2 ^ type.bits ≤ stored) ∧
    (¬(stored < -(2 ^ (type.bits - 1)) ∨ 2 ^ type.bits ≤ stored) → ∃ value,
      symbol.constant (.integer stored) = .ok (.integer value) ∧
      type.Contains value ∧ value ≡ stored [ZMOD 2 ^ type.bits] ∧
      (∀ other, type.Contains other → other ≡ stored [ZMOD 2 ^ type.bits] → other = value) ∧
      symbol.constant (.integer value) = .ok (.integer value) ∧
      ∀ twin : TypeSymbol, twin.representation.special.integral? = some type.counterpart →
        ∃ crossed, twin.constant (.integer value) = .ok (.integer crossed) ∧
          symbol.constant (.integer crossed) = .ok (.integer value)) := by
  have wide := SpecialType.integral?_wide integral
  have outside : ¬type.Accepts stored ↔
      stored < -(2 ^ (type.bits - 1)) ∨ 2 ^ type.bits ≤ stored := by
    unfold IntegralType.Accepts
    omega
  constructor
  · rw [← outside, ← IntegralType.wrap?_eq_none_iff wide, TypeSymbol.constant_integral integral]
    cases type.wrap? stored with
    | none => exact iff_of_true rfl rfl
    | some value => exact iff_of_false nofun nofun
  · rw [← outside, not_not]
    intro accepted
    obtain ⟨value, read, inside, congruent⟩ := IntegralType.exists_wrap? wide accepted
    refine ⟨value, ?_, inside, congruent, ?_, ?_, ?_⟩
    · rw [TypeSymbol.constant_integral integral, read]
    · intro other contained same
      exact contained.eq_of_modEq wide inside (same.trans congruent.symm)
    · rw [TypeSymbol.constant_integral integral, IntegralType.wrap?_of_contains wide inside]
    · intro twin other
      obtain ⟨crossed, there, back⟩ := IntegralType.wrap?_counterpart wide inside
      refine ⟨crossed, ?_, ?_⟩
      · rw [TypeSymbol.constant_integral other, there]
      · rw [TypeSymbol.constant_integral integral, back]

/-- An enumeration over the unsigned numbers of 16 bits. -/
def wordFlags : TypeSymbol where
  name := "Flags"
  enumUnderlying? := some { name := "System.UInt16", special := .uint16 }

/-- The type of the signed numbers of 16 bits. -/
def signedWord : TypeSymbol := { name := "System.Int16", special := .int16 }

/-- Minus one stands for the largest number of the enumeration, which is read back after it was
converted to a signed number. -/
theorem integralConstant_largest :
    wordFlags.representation.special.integral? = some ⟨16, false⟩ ∧
      signedWord.representation.special.integral? = some ⟨16, true⟩ ∧
      wordFlags.constant (.integer (-1)) = .ok (.integer 65535) ∧
      ∃ crossed, signedWord.constant (.integer 65535) = .ok (.integer crossed) ∧
        wordFlags.constant (.integer crossed) = .ok (.integer 65535) := by
  have unsigned : wordFlags.representation.special.integral? = some ⟨16, false⟩ := rfl
  have signed : signedWord.representation.special.integral? = some ⟨16, true⟩ := rfl
  obtain ⟨-, kept⟩ := integralConstant_exact wordFlags ⟨16, false⟩ unsigned (-1)
  obtain ⟨value, read, -, -, unique, -, twins⟩ := kept (by decide)
  have largest : 65535 = value := unique 65535 (by decide) (by decide)
  subst largest
  exact ⟨unsigned, signed, read, twins signedWord signed⟩

end DebugLens
