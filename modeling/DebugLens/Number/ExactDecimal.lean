import DebugLens.Text.Blank
import DebugLens.Text.Digit

/-!
# Exact decimal numbers

A decimal number keeps its coefficient and power of ten as written, so `1.10` and `1.1` differ.
Besides finite numbers there are infinities and quiet and signalling undefined values, the
latter with a numeric payload. The numeral grammar drops underscores, trims white space, admits
decimal digits of any script and ignores letter case. Powers of ten are bounded; a numeral
beyond the bounds is refused, zero included.
-/
namespace DebugLens

/-- An exact decimal number. -/
inductive ExactDecimal where
  /-- `coefficient * 10 ^ exponent` with a sign. -/
  | finite (negative : Bool) (coefficient : Nat) (exponent : Int)
  /-- An infinity. -/
  | infinite (negative : Bool)
  /-- An undefined value with its payload. -/
  | undefined (negative signalling : Bool) (payload : Nat)
deriving DecidableEq, Repr

namespace ExactDecimal

/-- The largest power of ten of a leading digit. -/
def greatestExponent : Int := 999999999999999999

/-- The smallest power of ten of a last digit. -/
def leastExponent : Int := -1999999999999999997

/-- The number of digits of a coefficient. -/
def digitCount (coefficient : Nat) : Nat := (Nat.toDigits 10 coefficient).length

/-- A finite number, if its exponent is within bounds. -/
def ofParts? (negative : Bool) (coefficient : Nat) (exponent : Int) : Option ExactDecimal :=
  if exponent < leastExponent then none
  else if exponent + digitCount coefficient - 1 > greatestExponent then none
  else some (.finite negative coefficient exponent)

/-- The ASCII character that a code point of a numeral stands for. -/
def numeralChar? (c : CodePoint) : Option Char :=
  if 0 < c.toNat && c.toNat ≤ 127 then c.char?
  else if Text.isBlank c then some ' '
  else (Text.decimalDigit? c).map fun digit => Char.ofNat ('0'.toNat + digit)

/-- The digits at the front of a text, and the rest. -/
def leadingDigits (text : List Char) : List Char × List Char := text.span Text.isAsciiDigit

/-- The text is a word, letter case aside; the word is given in lower case. -/
def isWord (word : String) (text : List Char) : Bool := text.map Char.toLower == word.toList

/-- An exponent with its mark, or nothing at all. -/
def readExponent : List Char → Option Int
  | [] => some 0
  | mark :: rest =>
    if mark = 'e' || mark = 'E' then
      let (negative, digits) :=
        match rest with
        | '-' :: digits => (true, digits)
        | '+' :: digits => (false, digits)
        | digits => (false, digits)
      if digits.isEmpty || !digits.all Text.isAsciiDigit then none
      else if negative then some (-(Text.asciiNumeral digits : Int))
      else some (Text.asciiNumeral digits)
    else none

/-- Digits with at most one point, and an exponent. -/
def readFinite (negative : Bool) (text : List Char) : Option ExactDecimal := do
  let (whole, rest) := leadingDigits text
  let (fraction, rest) :=
    match rest with
    | '.' :: rest => leadingDigits rest
    | rest => ([], rest)
  if whole.isEmpty && fraction.isEmpty then none
  let exponent ← readExponent rest
  ofParts? negative (Text.asciiNumeral (whole ++ fraction)) (exponent - fraction.length)

/-- A payload, which may be empty. -/
def readUndefined (negative signalling : Bool) (payload : List Char) : Option ExactDecimal :=
  if payload.all Text.isAsciiDigit then
    some (.undefined negative signalling (Text.asciiNumeral payload))
  else none

/-- A numeral without its sign. -/
def readUnsigned (negative : Bool) (text : List Char) : Option ExactDecimal :=
  if isWord "inf" text || isWord "infinity" text then some (.infinite negative)
  else if isWord "nan" (text.take 3) then readUndefined negative false (text.drop 3)
  else if isWord "snan" (text.take 4) then readUndefined negative true (text.drop 4)
  else readFinite negative text

/-- A numeral with an optional sign. -/
def readSigned : List Char → Option ExactDecimal
  | '-' :: text => readUnsigned true text
  | '+' :: text => readUnsigned false text
  | text => readUnsigned false text

/-- The number that a text denotes. -/
def ofText? (text : Text) : Option ExactDecimal := do
  let ascii ← ((Text.trim text).filter (· ≠ .char '_')).mapM numeralChar?
  readSigned ascii

/-- The number equal to an integer. -/
def ofInt (value : Int) : ExactDecimal := .finite (value < 0) value.natAbs 0

/-- The sign of a negative number. -/
def signText (negative : Bool) : String := if negative then "-" else ""

/-- The text of a finite magnitude: positional when the exponent is not positive and the first
digit stands no further than six places behind the point, otherwise with one digit in front of
the point and an exponent. -/
def magnitudeText (coefficient : Nat) (exponent : Int) : List Char :=
  let digits := Nat.toDigits 10 coefficient
  let places : Int := exponent + digits.length
  let positional := exponent ≤ 0 && places > -6
  let point : Int := if positional then places else 1
  let body :=
    if point ≤ 0 then '0' :: '.' :: (List.replicate (-point).toNat '0' ++ digits)
    else if digits.length ≤ point.toNat then
      digits ++ List.replicate (point.toNat - digits.length) '0'
    else digits.take point.toNat ++ '.' :: digits.drop point.toNat
  let power := places - point
  if power = 0 then body
  else
    body ++ 'E' :: (if power < 0 then '-' else '+') :: Nat.toDigits 10 power.natAbs

/-- The text of a number. -/
def text : ExactDecimal → String
  | .finite negative coefficient exponent =>
    signText negative ++ String.ofList (magnitudeText coefficient exponent)
  | .infinite negative => signText negative ++ "Infinity"
  | .undefined negative signalling payload =>
    signText negative ++ (if signalling then "sNaN" else "NaN") ++
      (if payload = 0 then "" else toString payload)

end ExactDecimal

end DebugLens
