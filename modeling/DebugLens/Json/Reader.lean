import DebugLens.Json.Basic
import DebugLens.Text.Digit
import DebugLens.Text.Hex
import DebugLens.Text.Utf16

/-!
# Reading JSON

The reader accepts one JSON value with white space around it, and besides the standard numbers
the words `NaN`, `Infinity` and `-Infinity`. A fault is reported with the place where it was
found, except for an integer with too many digits, of which only their number is told. Inside the
reader a place is the number of characters from there to the end of the input, which every step
knows without counting; it becomes line, column and index at the end.

Values may be nested to any depth. That a machine runs out of stack on values that are nested too
deeply, at a depth that depends on where the reader is called from, is not covered here.
-/
namespace DebugLens.Json

/-- What the reader missed or met. -/
inductive Fault where
  /-- No value starts here. -/
  | value
  /-- A member name has to start here. -/
  | memberName
  /-- A colon has to stand here. -/
  | colon
  /-- A comma or the closing bracket has to stand here. -/
  | comma
  /-- The string that starts here is never closed. -/
  | openString
  /-- A control character stands in a string. -/
  | control
  /-- A backslash is followed by no known escape. -/
  | escape
  /-- An escape does not have its four digits. -/
  | unicodeEscape
  /-- Something follows the value. -/
  | extra
  /-- The input starts with a byte order mark. -/
  | byteOrderMark
  /-- An integer has too many digits. -/
  | longInteger (error : Text.LongNumeral)
deriving DecidableEq, Repr

/-- The wording of a fault. -/
def Fault.message : Fault → String
  | .value => "Expecting value"
  | .memberName => "Expecting property name enclosed in double quotes"
  | .colon => "Expecting ':' delimiter"
  | .comma => "Expecting ',' delimiter"
  | .openString => "Unterminated string starting at"
  | .control => "Invalid control character at"
  | .escape => "Invalid \\escape"
  | .unicodeEscape => "Invalid \\uXXXX escape"
  | .extra => "Extra data"
  | .byteOrderMark => "Unexpected UTF-8 BOM (decode using utf-8-sig)"
  | .longInteger error => error.message

/-- The place of a fault is part of its description. -/
def Fault.isPlaced : Fault → Bool
  | .longInteger _ => false
  | _ => true

/-- A fault with the number of characters from its place to the end of the input. -/
structure Failure where
  /-- The fault. -/
  fault : Fault
  /-- How much of the input was left at its place. -/
  remaining : Nat
deriving DecidableEq, Repr

/-- The failure at the start of the given rest of the input. -/
def failAt {α : Type} (fault : Fault) (rest : List Char) : Except Failure α :=
  .error ⟨fault, rest.length⟩

/-- The white space between tokens. -/
def isSpace (c : Char) : Bool := c = ' ' || c = '\t' || c = '\n' || c = '\r'

/-- The rest of the input after white space. -/
def skipSpace (input : List Char) : List Char := input.dropWhile isSpace

/-- Four hexadecimal digits at the front of the input. -/
def fourHexDigits? : List Char → Option (Nat × List Char)
  | a :: b :: c :: d :: rest => do
    let a ← Text.hexDigit? a
    let b ← Text.hexDigit? b
    let c ← Text.hexDigit? c
    let d ← Text.hexDigit? d
    return (((a * 16 + b) * 16 + c) * 16 + d, rest)
  | _ => none

/-- The input goes on after an escape whose digits are at its front. -/
def goesOn (digits : List Char) : Bool := !(digits.drop 4).isEmpty

/-- The second half of a surrogate pair written as an escape, at the front of the input. An
escape that has no four digits is a failure; any other escape is left alone. -/
def lowSurrogate? (input : List Char) : Except Failure (Option (Nat × List Char)) :=
  match input with
  | '\\' :: 'u' :: rest =>
    if !goesOn rest then .ok none
    else
      match fourHexDigits? rest with
      | none => failAt .unicodeEscape ('u' :: rest)
      | some (unit, rest) => .ok (if Text.isLowSurrogate unit then some (unit, rest) else none)
  | _ => .ok none

/-- The code point of an escape by number whose digits are at the front of the input, at least
one more character having to follow them. Two escapes may form a surrogate pair. -/
def unicodeEscape (digits : List Char) : Except Failure (CodePoint × List Char) :=
  if !goesOn digits then failAt .unicodeEscape ('u' :: digits)
  else
    match fourHexDigits? digits with
    | none => failAt .unicodeEscape ('u' :: digits)
    | some (unit, rest) =>
      if Text.isHighSurrogate unit then do
        match ← lowSurrogate? rest with
        | some (low, rest) => return (.char (Text.ofSurrogates unit low), rest)
        | none => return (.ofUnit unit, rest)
      else .ok (.ofUnit unit, rest)

/-- The character of an escape by name. -/
def namedEscape? (c : Char) : Option Char :=
  match c with
  | '"' => some '"'
  | '\\' => some '\\'
  | '/' => some '/'
  | 'b' => some '\x08'
  | 'f' => some '\x0c'
  | 'n' => some '\n'
  | 'r' => some '\r'
  | 't' => some '\t'
  | _ => none

/-- The text of a string up to its closing quote. `opening` is the input from the opening quote
on. The fuel bounds the number of code points. -/
def readString (opening : List Char) : Nat → List Char → Except Failure (Text × List Char)
  | 0, _ => failAt .openString opening
  | _, [] => failAt .openString opening
  | fuel + 1, c :: rest =>
    if c = '"' then .ok ([], rest)
    else if c = '\\' then
      match rest with
      | [] => failAt .openString opening
      | 'u' :: digits => do
        let (c, rest) ← unicodeEscape digits
        let (text, rest) ← readString opening fuel rest
        return (c :: text, rest)
      | name :: rest =>
        match namedEscape? name with
        | none => .error ⟨.escape, rest.length + 2⟩
        | some c => do
          let (text, rest) ← readString opening fuel rest
          return (.char c :: text, rest)
    else if c.toNat ≤ 0x1F then .error ⟨.control, rest.length + 1⟩
    else do
      let (text, rest) ← readString opening fuel rest
      return (.char c :: text, rest)

/-- The whole part of a number: a zero, or digits that do not start with one. -/
def wholePart? : List Char → Option (List Char × List Char)
  | '0' :: rest => some (['0'], rest)
  | c :: rest =>
    if Text.isAsciiDigit c then
      let (digits, rest) := rest.span Text.isAsciiDigit
      some (c :: digits, rest)
    else none
  | [] => none

/-- The digits after a point, if there are any. -/
def fractionPart : List Char → List Char × List Char
  | '.' :: c :: rest =>
    if Text.isAsciiDigit c then
      let (digits, rest) := rest.span Text.isAsciiDigit
      (c :: digits, rest)
    else ([], '.' :: c :: rest)
  | rest => ([], rest)

/-- The exponent, if a mark is followed by digits with or without a sign. -/
def exponentPart? : List Char → Option (Int × List Char)
  | mark :: rest =>
    if mark = 'e' || mark = 'E' then
      let (negative, afterSign) :=
        match rest with
        | '-' :: rest => (true, rest)
        | '+' :: rest => (false, rest)
        | rest => (false, rest)
      let (digits, rest) := afterSign.span Text.isAsciiDigit
      if digits.isEmpty then none
      else
        let magnitude : Int := Text.asciiNumeral digits
        some (if negative then -magnitude else magnitude, rest)
    else none
  | [] => none

/-- A number at the front of the input. -/
def readNumber (input : List Char) : Except Failure (Json × List Char) :=
  let (negative, unsigned) :=
    match input with
    | '-' :: rest => (true, rest)
    | rest => (false, rest)
  match wholePart? unsigned with
  | none => failAt .value input
  | some (whole, rest) =>
    let (fraction, rest) := fractionPart rest
    match exponentPart? rest with
    | some (exponent, rest) =>
      .ok (.float (Binary64.ofDecimal negative (Text.asciiNumeral (whole ++ fraction))
        (exponent - fraction.length)), rest)
    | none =>
      if fraction.isEmpty then
        match Text.asciiValue whole with
        | .error error => failAt (.longInteger error) input
        | .ok value =>
          let magnitude : Int := value
          .ok (.integer (if negative then -magnitude else magnitude), rest)
      else
        .ok (.float (Binary64.ofDecimal negative (Text.asciiNumeral (whole ++ fraction))
          (-(fraction.length : Int))), rest)

/-- The rest of the input after a word. -/
def afterWord? (word : String) (input : List Char) : Option (List Char) :=
  if word.toList.isPrefixOf input then some (input.drop word.length) else none

/-- The values that are written as words. -/
def wordValues : List (String × Json) :=
  [("null", .null), ("true", .boolean true), ("false", .boolean false),
    ("NaN", .float .notANumber), ("Infinity", .float (.infinite false)),
    ("-Infinity", .float (.infinite true))]

/-- A word or a number at the front of the input. -/
def readScalar (input : List Char) : Except Failure (Json × List Char) :=
  match wordValues.findSome? fun (word, value) =>
      (afterWord? word input).map fun rest => (value, rest) with
  | some found => .ok found
  | none => readNumber input

mutual

/-- A value at the front of the input. The fuel bounds the number of steps. A bracket takes two,
one for the value that it opens and one for the first thing in it, and nothing else takes more
than one step per character, so more than twice the length of the input is always enough; the
characters of a string are counted by themselves. -/
def readValue : Nat → List Char → Except Failure (Json × List Char)
  | 0, input => failAt .value input
  | fuel + 1, input =>
    match input with
    | '"' :: rest => do
      let (text, rest) ← readString input fuel rest
      return (.string text, rest)
    | '[' :: rest =>
      match skipSpace rest with
      | ']' :: rest => .ok (.array [], rest)
      | rest => do
        let (items, rest) ← readItems fuel rest
        return (.array items, rest)
    | '\x7b' :: rest =>
      match skipSpace rest with
      | '\x7d' :: rest => .ok (.object [], rest)
      | rest => do
        let (members, rest) ← readMembers fuel rest
        return (.object (membersOf members), rest)
    | _ => readScalar input

/-- The items of an array up to its closing bracket. -/
def readItems : Nat → List Char → Except Failure (List Json × List Char)
  | 0, input => failAt .value input
  | fuel + 1, input => do
    let (item, rest) ← readValue fuel input
    match skipSpace rest with
    | ']' :: rest => return ([item], rest)
    | ',' :: rest =>
      let (items, rest) ← readItems fuel (skipSpace rest)
      return (item :: items, rest)
    | rest => failAt .comma rest

/-- The members of an object up to its closing brace. -/
def readMembers : Nat → List Char → Except Failure (List (Text × Json) × List Char)
  | 0, input => failAt .memberName input
  | fuel + 1, input =>
    match input with
    | '"' :: rest => do
      let (name, rest) ← readString input fuel rest
      match skipSpace rest with
      | ':' :: rest =>
        let (value, rest) ← readValue fuel (skipSpace rest)
        match skipSpace rest with
        | '\x7d' :: rest => return ([(name, value)], rest)
        | ',' :: rest =>
          let (members, rest) ← readMembers fuel (skipSpace rest)
          return ((name, value) :: members, rest)
        | rest => failAt .comma rest
      | rest => failAt .colon rest
    | _ => failAt .memberName input

end

/-- The value of a whole input. -/
def readDocument (input : List Char) : Except Failure Json :=
  match input with
  | '\ufeff' :: _ => failAt .byteOrderMark input
  | _ => do
    let (value, rest) ← readValue (2 * input.length + 1) (skipSpace input)
    match skipSpace rest with
    | [] => return value
    | rest => failAt .extra rest

/-- A failure in words: the fault, and the line, column and index of its place. -/
def Failure.describe (failure : Failure) (input : List Char) : String :=
  let before := input.take (input.length - failure.remaining)
  let line := before.count '\n' + 1
  let column := (before.reverse.takeWhile (· ≠ '\n')).length + 1
  if failure.fault.isPlaced then
    failure.fault.message ++ ": line " ++ toString line ++ " column " ++ toString column ++
      " (char " ++ toString before.length ++ ")"
  else failure.fault.message

/-- Every line end of a text file as a single line feed. -/
def unifyLineEnds : List Char → List Char
  | [] => []
  | '\r' :: '\n' :: rest => '\n' :: unifyLineEnds rest
  | '\r' :: rest => '\n' :: unifyLineEnds rest
  | c :: rest => c :: unifyLineEnds rest

/-- The value of a text, or a description of the first fault. -/
def ofText (text : String) : Except String Json :=
  (readDocument text.toList).mapError fun failure => failure.describe text.toList

end DebugLens.Json
