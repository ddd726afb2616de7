import DebugLens.Text.Printable

/-!
# Quoted text

Quoted text shows any text on one line of printable characters. The quote is `'`, or `"` when
the text holds `'` and no `"`. The backslash, the quote in use and the three usual layout
controls are escaped by name, every other unprintable code point by its number in the shortest
of the forms with two, four and eight digits. Halves of surrogate pairs are unprintable, so a
quoted text is a string.
-/
namespace DebugLens.Text

/-- The digits of a number in base sixteen, lower case, on at least `width` places. -/
def hexLower (width number : Nat) : List Char :=
  let digits := Nat.toDigits 16 number
  List.replicate (width - digits.length) '0' ++ digits

/-- The escape of a code point by its number. -/
def escapeByNumber (codePoint : Nat) : List Char :=
  if codePoint < 0x100 then '\\' :: 'x' :: hexLower 2 codePoint
  else if codePoint < 0x10000 then '\\' :: 'u' :: hexLower 4 codePoint
  else '\\' :: 'U' :: hexLower 8 codePoint

/-- A character as it stands between the given quotes. -/
def escapeChar (quote c : Char) : List Char :=
  if c = '\t' then ['\\', 't']
  else if c = '\n' then ['\\', 'n']
  else if c = '\r' then ['\\', 'r']
  else if c = '\\' || c = quote then ['\\', c]
  else if isPrintable c.toNat then [c]
  else escapeByNumber c.toNat

/-- A code point as it stands between the given quotes. -/
def escapeCodePoint (quote : Char) : CodePoint → List Char
  | .char c => escapeChar quote c
  | half => escapeByNumber half.toNat

/-- The quote that a text is shown with. -/
def quoteFor (text : Text) : Char :=
  if text.contains (.char '\'') && !text.contains (.char '"') then '"' else '\''

/-- The characters of a text between quotes. -/
def quotedCharacters (text : Text) : List Char :=
  let quote := quoteFor text
  quote :: text.flatMap (escapeCodePoint quote) ++ [quote]

/-- A text between quotes. -/
def quoted (text : Text) : String := String.ofList (quotedCharacters text)

end DebugLens.Text
