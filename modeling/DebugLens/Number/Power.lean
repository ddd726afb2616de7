/-!
# Powers of two and ten

The two bases in which numbers are stored and written.
-/
namespace DebugLens

/-- A power of two. -/
def twoTo (exponent : Nat) : Nat := Nat.pow 2 exponent

/-- A power of ten. -/
def tenTo (exponent : Nat) : Nat := Nat.pow 10 exponent

/-- One more bit doubles a power of two. -/
theorem twoTo_succ (exponent : Nat) : twoTo (exponent + 1) = 2 * twoTo exponent :=
  Nat.mul_comm _ _

/-- A power of two is positive. -/
theorem twoTo_pos (exponent : Nat) : 0 < twoTo exponent := Nat.pow_pos (Nat.succ_pos 1)

end DebugLens
