import DebugLens.Bytes

/-!
# UTF-16 text in bytes

Names are stored as little-endian UTF-16 code units up to a zero unit or the end of their field.
Reading never fails: a surrogate that is not part of a pair is read as the replacement
character, and a single byte left over at the end is dropped.
-/
namespace DebugLens.Text

/-- The first unit of a surrogate pair. -/
def isHighSurrogate (unit : Nat) : Bool := 0xD800 ≤ unit && unit < 0xDC00

/-- The second unit of a surrogate pair. -/
def isLowSurrogate (unit : Nat) : Bool := 0xDC00 ≤ unit && unit < 0xE000

/-- The character of a surrogate pair. -/
def ofSurrogates (high low : Nat) : Char :=
  Char.ofNat (0x10000 + (high - 0xD800) * 0x400 + (low - 0xDC00))

/-- The character that stands for an unpaired surrogate. -/
def replacementChar : Char := '\ufffd'

/-- The characters of a list of code units. -/
def decodeUnits : List Nat → List Char
  | [] => []
  | [unit] =>
    if isHighSurrogate unit || isLowSurrogate unit then [replacementChar] else [Char.ofNat unit]
  | unit :: next :: rest =>
    if isHighSurrogate unit then
      if isLowSurrogate next then ofSurrogates unit next :: decodeUnits rest
      else replacementChar :: decodeUnits (next :: rest)
    else if isLowSurrogate unit then replacementChar :: decodeUnits (next :: rest)
    else Char.ofNat unit :: decodeUnits (next :: rest)

/-- The text stored in a field of bytes: its code units before the first zero unit. -/
def readUtf16 (bytes : Bytes) : String :=
  String.ofList (decodeUnits ((Bytes.words16 bytes).takeWhile (· ≠ 0)))

/-- The code units of a character. -/
def unitsOfChar (c : Char) : List Nat :=
  if c.toNat < 0x10000 then [c.toNat]
  else [0xD800 + (c.toNat - 0x10000) / 0x400, 0xDC00 + (c.toNat - 0x10000) % 0x400]

/-- A code unit in two bytes. -/
def writeUnit (unit : Nat) : Bytes := [UInt8.ofNat (unit % 256), UInt8.ofNat (unit / 256)]

/-- The little-endian UTF-16 encoding of a text. -/
def writeUtf16 (text : String) : Bytes :=
  (text.toList.flatMap unitsOfChar).flatMap writeUnit

end DebugLens.Text
