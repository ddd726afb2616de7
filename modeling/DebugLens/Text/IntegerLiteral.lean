import DebugLens.Text.Blank
import DebugLens.Text.Digit
import DebugLens.Text.Hex
import DebugLens.Text.Quoted

/-!
# Integer literals

An integer literal is a sign, a base mark `0x`, `0o` or `0b` in either case, and digits, with
white space around it. Single underscores may stand between digits and after the base mark. A
decimal literal other than zero does not start with a zero, and it has no more digits than a decimal
numeral may have. Digits and spaces of other scripts count as their ASCII counterparts. The message
about a text that is none tells the number of digits at its front if there are too many, and shows
its beginning otherwise.
-/
namespace DebugLens.Text

/-- The ASCII character that a code point of a literal stands for. -/
def literalChar? (c : CodePoint) : Option Char :=
  if c.toNat < 127 then c.char?
  else if isBlank c then some ' '
  else (decimalDigit? c).map fun digit => Char.ofNat ('0'.toNat + digit)

/-- The value of a digit in a base of at most sixteen. -/
def digitBelow? (base : Nat) (c : Char) : Option Nat :=
  (hexDigit? c).filter (· < base)

/-- Digits with single underscores between them. -/
def separatedDigits (base : Nat) : List Char → Option (List Nat)
  | [] => none
  | [c] => (digitBelow? base c).map fun digit => [digit]
  | c :: '_' :: rest => do
    let digit ← digitBelow? base c
    let digits ← separatedDigits base rest
    return digit :: digits
  | c :: rest => do
    let digit ← digitBelow? base c
    let digits ← separatedDigits base rest
    return digit :: digits

/-- The base that a base mark names. -/
def baseOfMark? (mark : Char) : Option Nat :=
  if mark = 'x' || mark = 'X' then some 16
  else if mark = 'o' || mark = 'O' then some 8
  else if mark = 'b' || mark = 'B' then some 2
  else none

/-- The value of a numeral in a base. -/
def readNumeral (base : Nat) (text : List Char) : Option Nat :=
  (separatedDigits base text).map (ofDigits base)

/-- Digits after a base mark, which one underscore may precede. -/
def readMarked (base : Nat) : List Char → Option Nat
  | '_' :: digits => readNumeral base digits
  | digits => readNumeral base digits

/-- The value of a numeral in decimal, unless it has too many digits. -/
def readDecimal (text : List Char) : Option Nat :=
  (separatedDigits 10 text).bind fun digits => (decimalValue digits).toOption

/-- A decimal numeral, which starts with a zero only if it is zero. -/
def readDecimalNumeral (text : List Char) : Option Nat :=
  match text with
  | '0' :: _ => (readDecimal text).filter (· = 0)
  | _ => readDecimal text

/-- The value of a literal without its sign. -/
def readMagnitude (text : List Char) : Option Nat :=
  match text with
  | '0' :: mark :: digits =>
    match baseOfMark? mark with
    | some base => readMarked base digits
    | none => readDecimalNumeral text
  | _ => readDecimalNumeral text

/-- The value of a literal without white space around it. -/
def readSigned : List Char → Option Int
  | '-' :: text => (readMagnitude text).map fun magnitude => -(magnitude : Int)
  | '+' :: text => (readMagnitude text).map fun magnitude => (magnitude : Int)
  | text => (readMagnitude text).map fun magnitude => (magnitude : Int)

/-- The value of an integer literal. -/
def readInteger (text : Text) : Option Int := do
  let ascii ← text.mapM literalChar?
  readSigned (trimBoth isAsciiBlank ascii)

/-- The most characters of a quoted literal that a message shows. -/
def shownLiteralLength : Nat := 200

/-- The literal has a base mark, behind its sign. -/
def isMarked : List Char → Bool
  | '0' :: mark :: _ => (baseOfMark? mark).isSome
  | _ => false

/-- The ASCII characters that the code points at the front of a literal stand for. -/
def literalFront : Text → List Char
  | [] => []
  | c :: rest =>
    match literalChar? c with
    | some ascii => ascii :: literalFront rest
    | none => []

/-- The digits and underscores that a literal in a base has at its front, behind white space and a
sign. A base mark counts only if the base is not given, that is, if it is 0. -/
def frontNumeral (base : Nat) (text : Text) : List Char :=
  let unsigned :=
    match (literalFront text).dropWhile isAsciiBlank with
    | '-' :: rest => rest
    | '+' :: rest => rest
    | rest => rest
  if base = 0 && isMarked unsigned then []
  else unsigned.takeWhile fun c => isAsciiDigit c || c = '_'

/-- The decimal numeral at the front of a literal has too many digits, whatever follows it. -/
def longNumeral? (base : Nat) (text : Text) : Option LongNumeral :=
  match (separatedDigits 10 (frontNumeral base text)).map decimalValue with
  | some (.error error) => some error
  | _ => none

/-- The message about a text that is no literal in a base; the quoted text is cut off when it is
long, its closing quote first. -/
def literalMessage (base : Nat) (text : Text) : String :=
  match longNumeral? base text with
  | some error => error.message
  | none =>
    "invalid literal for int() with base " ++ Nat.repr base ++ ": " ++
      String.ofList ((quotedCharacters text).take shownLiteralLength)

end DebugLens.Text
