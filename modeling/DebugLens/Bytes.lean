/-!
# Bytes

Byte strings are lists, read from the front. Integers are little-endian; the 32-bit ones are
signed. A field of fixed width is read only if all its bytes are there.
-/
namespace DebugLens

/-- A byte string. -/
abbrev Bytes := List UInt8

namespace Bytes

/-- The value of two bytes. -/
def word16 (low high : UInt8) : Nat := low.toNat + 256 * high.toNat

/-- The 16-bit words of a byte string, a last single byte dropped. -/
def words16 : Bytes → List Nat
  | low :: high :: rest => word16 low high :: words16 rest
  | _ => []

/-- The value of four bytes as a two's complement integer. -/
def int32 (a b c d : UInt8) : Int :=
  let word := a.toNat + 256 * (b.toNat + 256 * (c.toNat + 256 * d.toNat))
  if word < 0x80000000 then word else (word : Int) - 0x100000000

/-- The integer in the first four bytes. -/
def readInt32? : Bytes → Option Int
  | a :: b :: c :: d :: _ => some (int32 a b c d)
  | _ => none

/-- The consecutive pieces of a given size, a shorter last piece dropped. -/
def pieces (size : Nat) (bytes : Bytes) : List Bytes :=
  (List.range (bytes.length / size)).map fun index => (bytes.drop (index * size)).take size

end Bytes

end DebugLens
