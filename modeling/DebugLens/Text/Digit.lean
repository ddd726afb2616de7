import DebugLens.Text.CodePoint

/-!
# Digits

Decimal digits come in runs of ten consecutive code points, one run per script, so a digit's
value is its distance from the zero of its run. The wider class of digits adds superscripts,
circled digits and the like, which have a digit value but do not take part in decimal numerals.

Integers are of any size, but a decimal numeral has a largest number of digits: a longer one is not
converted into an integer, and an integer with more digits is not written in decimal. Zeros in front
count as digits. There is no such limit in bases that are powers of two.
-/
namespace DebugLens.Text

/-- The zeros of the decimal digit runs of Unicode 14, ascending. -/
def digitZeros : List Nat :=
  [
    0x30, 0x660, 0x6F0, 0x7C0, 0x966, 0x9E6, 0xA66, 0xAE6, 0xB66, 0xBE6, 0xC66, 0xCE6, 0xD66,
    0xDE6, 0xE50, 0xED0, 0xF20, 0x1040, 0x1090, 0x17E0, 0x1810, 0x1946, 0x19D0, 0x1A80, 0x1A90,
    0x1B50, 0x1BB0, 0x1C40, 0x1C50, 0xA620, 0xA8D0, 0xA900, 0xA9D0, 0xA9F0, 0xAA50, 0xABF0,
    0xFF10, 0x104A0, 0x10D30, 0x11066, 0x110F0, 0x11136, 0x111D0, 0x112F0, 0x11450, 0x114D0,
    0x11650, 0x116C0, 0x11730, 0x118E0, 0x11950, 0x11C50, 0x11D50, 0x11DA0, 0x16A60, 0x16AC0,
    0x16B50, 0x1D7CE, 0x1D7D8, 0x1D7E2, 0x1D7EC, 0x1D7F6, 0x1E140, 0x1E2F0, 0x1E950, 0x1FBF0
  ]

/-- The digits of Unicode 14 that are not decimal digits. -/
def otherDigitRanges : RangeTable :=
  [
    (0xB2, 0xB3), (0xB9, 0xB9), (0x1369, 0x1371), (0x19DA, 0x19DA), (0x2070, 0x2070),
    (0x2074, 0x2079), (0x2080, 0x2089), (0x2460, 0x2468), (0x2474, 0x247C), (0x2488, 0x2490),
    (0x24EA, 0x24EA), (0x24F5, 0x24FD), (0x24FF, 0x24FF), (0x2776, 0x277E), (0x2780, 0x2788),
    (0x278A, 0x2792), (0x10A40, 0x10A43), (0x10E60, 0x10E68), (0x11052, 0x1105A),
    (0x1F100, 0x1F10A)
  ]

/-- The value of a decimal digit of any script. -/
def decimalDigit? (c : CodePoint) : Option Nat :=
  (digitZeros.find? fun first => first ≤ c.toNat && c.toNat < first + 10).map (c.toNat - ·)

/-- The code point has a digit value, decimal or not. -/
def isDigit (c : CodePoint) : Bool := (decimalDigit? c).isSome || otherDigitRanges.holds c.toNat

/-- The decimal digits of the basic Latin range. -/
def isAsciiDigit (c : Char) : Bool := '0' ≤ c && c ≤ '9'

/-- The value of a numeral whose digits are given most significant first. -/
def ofDigits (base : Nat) (digits : List Nat) : Nat :=
  digits.foldl (fun value digit => value * base + digit) 0

/-- The value of a numeral written in ASCII digits. -/
def asciiNumeral (digits : List Char) : Nat :=
  ofDigits 10 (digits.map fun c => c.toNat - '0'.toNat)

/-! ## The longest decimal numerals -/

/-- The most digits of a decimal numeral. -/
def greatestNumeral : Nat := 4300

/-- A decimal numeral has too many digits to be converted. -/
structure LongNumeral where
  /-- The number of its digits. -/
  length : Nat
deriving DecidableEq, Repr

/-- The message about a conversion between integers and decimal numerals that exceeds the limit;
`detail` says more about the value. -/
def limitMessage (detail : String) : String :=
  "Exceeds the limit (" ++ Nat.repr greatestNumeral ++ " digits) for integer string conversion" ++
    detail ++ "; use sys.set_int_max_str_digits() to increase the limit"

/-- The wording of an error. -/
def LongNumeral.message (error : LongNumeral) : String :=
  limitMessage (": value has " ++ Nat.repr error.length ++ " digits")

/-- The message about an integer that has too many digits to be written in decimal. -/
def longIntegerMessage : String := limitMessage ""

/-- The value of a decimal numeral, unless it has too many digits. -/
def decimalValue (digits : List Nat) : Except LongNumeral Nat :=
  if digits.length ≤ greatestNumeral then .ok (ofDigits 10 digits) else .error ⟨digits.length⟩

/-- The value of a numeral written in ASCII digits, unless it has too many digits. -/
def asciiValue (digits : List Char) : Except LongNumeral Nat :=
  decimalValue (digits.map fun c => c.toNat - '0'.toNat)

/-- An integer in decimal, unless it has too many digits. -/
def decimalText? (value : Int) : Option String :=
  if (Nat.toDigits 10 value.natAbs).length ≤ greatestNumeral then some value.repr else none

end DebugLens.Text
