import DebugLens.Number.Binary64

/-!
# The end of the floating-point numbers

An integer has no nearest floating-point number when it lies half a step or more beyond the
largest one. Half a step beyond is a tie, and the largest significand is odd, so the tie goes up.
-/
namespace DebugLens.Binary64

/-- The first number that rounds beyond the largest floating-point number: it lies half a step
behind that number. -/
def roundingEnd : Nat := (2 * (significandEnd - 1) + 1) * twoTo 970

/-- A division that stays below the multiple after an odd quotient rounds up to that multiple
from half a step on. -/
theorem divideToEven_eq_succ_iff {numerator half quotient : Nat} (odd : quotient % 2 = 1)
    (below : numerator < (quotient + 1) * (2 * half)) :
    divideToEven numerator (2 * half) = quotient + 1 ↔ (2 * quotient + 1) * half ≤ numerator := by
  have positive : 0 < 2 * half := Nat.pos_of_mul_pos_left (Nat.zero_lt_of_lt below)
  have whole := Nat.div_add_mod numerator (2 * half)
  have remains := Nat.mod_lt numerator positive
  have expanded : (2 * quotient + 1) * half = 2 * half * quotient + half := by
    rw [Nat.add_mul, Nat.one_mul, Nat.mul_right_comm]
  have reached : numerator / (2 * half) ≤ quotient :=
    Nat.le_of_lt_succ ((Nat.div_lt_iff_lt_mul positive).mpr below)
  rw [expanded]
  unfold divideToEven
  dsimp only
  rcases Nat.lt_or_eq_of_le reached with earlier | last
  · -- An earlier quotient is rounded up at most to this one.
    have bound : 2 * half * (numerator / (2 * half) + 1) ≤ 2 * half * quotient :=
      Nat.mul_le_mul_left _ earlier
    rw [Nat.mul_succ] at bound
    split
    · omega
    · split <;> omega
  · rw [last] at whole
    rw [last, odd]
    simp only [Nat.one_ne_zero, decide_false, Bool.and_false, Bool.false_eq_true, if_false]
    split <;> omega

/-- A positive integer is rounded at the exponent that leaves its highest bit as bit 52. -/
theorem exponentOf_one {number : Nat} (positive : number ≠ 0) :
    exponentOf number 1 = (number.log2 : Int) - 52 := by
  have reached := Nat.log2_self_le positive
  have unscaled : fitsBelow 52 number 1 ((number.log2 : Int) - 52) = false := by
    unfold fitsBelow
    split
    · next enough =>
      have scaled : twoTo 52 * (1 * twoTo ((number.log2 : Int) - 52).toNat) = 2 ^ number.log2 := by
        rw [Nat.one_mul, twoTo, twoTo, Nat.pow_eq, Nat.pow_eq, ← Nat.pow_add]
        congr 1
        omega
      rw [scaled]
      exact decide_eq_false (Nat.not_lt.mpr reached)
    · next few =>
      have scaled : 2 ^ number.log2 * twoTo (-((number.log2 : Int) - 52)).toNat =
          twoTo 52 * 1 := by
        rw [Nat.mul_one, twoTo, twoTo, Nat.pow_eq, Nat.pow_eq, ← Nat.pow_add]
        congr 1
        omega
      rw [← scaled]
      exact decide_eq_false (Nat.not_lt.mpr (Nat.mul_le_mul_right _ reached))
  have guess : (number.log2 : Int) - Nat.log2 1 - 52 = (number.log2 : Int) - 52 := by
    rw [show Nat.log2 1 = 0 from by decide, Int.natCast_zero, Int.sub_zero]
  unfold exponentOf
  dsimp only
  rw [guess, unscaled, if_neg Bool.false_ne_true]
  simp only [leastExponent]
  omega

/-- More bits make a power of two no smaller. -/
theorem twoTo_mono {bits more : Nat} (fewer : bits ≤ more) : twoTo bits ≤ twoTo more :=
  Nat.pow_le_pow_right Nat.two_pos fewer

/-- Numbers with more than 1024 bits lie beyond the end, those with fewer before it. -/
theorem roundingEnd_bits : twoTo 1023 ≤ roundingEnd ∧ roundingEnd < twoTo 1024 := by
  decide +kernel

/-- An integer has no nearest floating-point number exactly if it is half a step or more beyond
the largest one, on either side of zero. -/
theorem ofInt?_eq_none_iff (value : Int) :
    ofInt? value = none ↔ roundingEnd ≤ value.natAbs := by
  rw [ofInt?, ofRatio?, Option.map_eq_none_iff]
  generalize value.natAbs = number
  obtain ⟨below, beyond⟩ := roundingEnd_bits
  unfold nearest?
  by_cases zero : number = 0
  · subst zero
    have positive := Nat.lt_of_lt_of_le (twoTo_pos 1023) below
    rw [if_pos rfl]
    exact iff_of_false nofun (Nat.not_le.mpr positive)
  rw [if_neg zero, exponentOf_one zero]
  have reached : twoTo number.log2 ≤ number := Nat.log2_self_le zero
  have ended : number < twoTo (number.log2 + 1) := Nat.lt_log2_self
  simp only [greatestExponent]
  rcases Nat.lt_trichotomy number.log2 1023 with short | full | long
  · -- Even after rounding up to one more bit, the exponent is not too large.
    have fewer : twoTo (number.log2 + 1) ≤ twoTo 1023 := twoTo_mono short
    have before : number < roundingEnd := by omega
    refine iff_of_false ?_ (Nat.not_le.mpr before)
    split
    · rw [if_neg (by omega)]
      exact nofun
    · rw [if_neg (by omega)]
      exact nofun
  · -- With 1024 bits, only rounding up to one more bit makes the exponent too large.
    have scaled : factorOf number 1 ((number.log2 : Int) - 52) =
        divideToEven number (2 * twoTo 970) := by
      rw [full, ← twoTo_succ]
      simp [factorOf]
    have fits : number < (significandEnd - 1 + 1) * (2 * twoTo 970) := by
      have bits : (significandEnd - 1 + 1) * (2 * twoTo 970) = twoTo 1024 := by decide +kernel
      rw [full] at ended
      rwa [bits]
    have rounded : divideToEven number (2 * twoTo 970) = significandEnd ↔
        roundingEnd ≤ number := by
      unfold roundingEnd
      generalize twoTo 970 = half at fits ⊢
      exact divideToEven_eq_succ_iff (by decide) fits
    rw [scaled, ← rounded, full]
    generalize divideToEven number (2 * twoTo 970) = significand
    split
    · next up => exact iff_of_true rfl up
    · next down => exact iff_of_false nofun down
  · -- With more bits, the exponent is too large already.
    have more : twoTo 1024 ≤ twoTo number.log2 := twoTo_mono long
    have behind : roundingEnd ≤ number := by omega
    refine iff_of_true ?_ behind
    split
    · exact if_pos (by omega)
    · exact if_pos (by omega)

end DebugLens.Binary64
