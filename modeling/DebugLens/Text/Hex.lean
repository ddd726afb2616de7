import DebugLens.Bytes
import DebugLens.Text.Blank

/-!
# Hexadecimal text

Bytes are written as pairs of hexadecimal digits. A reader admits either case and ASCII white
space between pairs, and reports the position of the first character that is not the digit
expected there; any character beyond ASCII is reported before everything else. Tokens and
offsets are written in upper case on a minimal number of places, the sign counting as one.
-/
namespace DebugLens.Text

/-- The value of a hexadecimal digit of either case. -/
def hexDigit? (c : Char) : Option Nat :=
  if '0' ≤ c && c ≤ '9' then some (c.toNat - '0'.toNat)
  else if 'a' ≤ c && c ≤ 'f' then some (c.toNat - 'a'.toNat + 10)
  else if 'A' ≤ c && c ≤ 'F' then some (c.toNat - 'A'.toNat + 10)
  else none

/-- Read pairs of digits from a text that starts at `position`; a failure is a position. -/
def readHexPairs : Nat → List Char → Except Nat Bytes
  | _, [] => .ok []
  | position, c :: rest =>
    if isAsciiBlank c then readHexPairs (position + 1) rest
    else
      match hexDigit? c, rest with
      | none, _ => .error position
      | some _, [] => .error (position + 1)
      | some high, d :: rest =>
        match hexDigit? d with
        | none => .error (position + 1)
        | some low => do
          let bytes ← readHexPairs (position + 2) rest
          return UInt8.ofNat (high * 16 + low) :: bytes

/-- Read bytes written in hexadecimal; a failure is the position of the offending character. -/
def readHex (text : Text) : Except Nat Bytes :=
  match text.findIdx? fun c => c.toNat ≥ 128 with
  | some position => .error position
  | none => readHexPairs 0 text.characters

/-- A digit below sixteen, lower case. -/
def hexDigitLower (digit : Nat) : Char :=
  if digit < 10 then Char.ofNat ('0'.toNat + digit) else Char.ofNat ('a'.toNat + (digit - 10))

/-- Bytes written in hexadecimal, lower case without spaces. -/
def writeHex (bytes : Bytes) : String :=
  String.ofList (bytes.flatMap fun byte =>
    [hexDigitLower (byte.toNat / 16), hexDigitLower (byte.toNat % 16)])

/-- The upper-case hexadecimal digits of a number, with zeros in front up to `width` places. -/
def hexDigits (width number : Nat) : List Char :=
  let digits := (Nat.toDigits 16 number).map Char.toUpper
  List.replicate (width - digits.length) '0' ++ digits

/-- A number in upper-case hexadecimal on at least `width` places, a minus sign being one. -/
def hexUpper (width : Nat) : Int → String
  | .ofNat number => String.ofList (hexDigits width number)
  | .negSucc number => String.ofList ('-' :: hexDigits (width - 1) (number + 1))

/-- A metadata token as it is shown: `0x` and at least eight digits. -/
def tokenText (token : Int) : String := "0x" ++ hexUpper 8 token

end DebugLens.Text
