/-!
# Texts

A text is a list of code points. A code point is a character, or half of a surrogate pair that
stands alone: no string holds such a half, but an escape by number can produce one, and a
character constant can be one. Strings and characters are taken as texts and code points where
these are needed. Classes of code points are given as ascending lists of ranges.
-/
namespace DebugLens

/-- A code point of a text. -/
inductive CodePoint where
  /-- A character. -/
  | char (c : Char)
  /-- Half of a surrogate pair, by its distance from the first one. -/
  | surrogate (index : Fin 0x800)
deriving DecidableEq, Repr

/-- A text. -/
abbrev Text := List CodePoint

/-- The first code point that is half of a surrogate pair. -/
def firstSurrogate : Nat := 0xD800

namespace CodePoint

/-- The number of a code point. -/
def toNat : CodePoint → Nat
  | char c => c.toNat
  | surrogate index => firstSurrogate + index

/-- The code point as a character, unless it is half of a surrogate pair. -/
def char? : CodePoint → Option Char
  | char c => some c
  | surrogate _ => none

/-- The code point whose number is a 16-bit code unit. -/
def ofUnit (unit : Nat) : CodePoint :=
  if half : firstSurrogate ≤ unit ∧ unit - firstSurrogate < 0x800 then
    surrogate ⟨unit - firstSurrogate, half.2⟩
  else char (Char.ofNat unit)

end CodePoint

instance : Coe Char CodePoint where
  coe := CodePoint.char

namespace Text

/-- The text of a string. -/
def ofString (string : String) : Text := string.toList.map CodePoint.char

/-- The characters of a text. -/
def characters (text : Text) : List Char := text.filterMap CodePoint.char?

/-- A text stands in front of another one, or is equal to it, if texts are ordered by the numbers
of their code points. -/
def precedes : Text → Text → Bool
  | [], _ => true
  | _ :: _, [] => false
  | left :: lefts, right :: rights =>
    left.toNat < right.toNat || (left.toNat == right.toNat && precedes lefts rights)

/-- The text as a string, halves of surrogate pairs being replaced. -/
def toString (text : Text) : String :=
  String.ofList (text.map fun codePoint => codePoint.char?.getD '\ufffd')

/-- Texts one after another with a separator between them. -/
def join (separator : Text) (texts : List Text) : Text := separator.intercalate texts

/-- Lines as a text. -/
def ofLines (lines : List Text) : Text := lines.flatMap (· ++ [.char '\n'])

/-- Ascending ranges of code points, both ends included. -/
abbrev RangeTable := List (Nat × Nat)

/-- The code point lies in one of the ranges. -/
def RangeTable.holds : RangeTable → Nat → Bool
  | [], _ => false
  | (first, last) :: ranges, codePoint =>
    if codePoint < first then false
    else codePoint ≤ last || RangeTable.holds ranges codePoint

end Text

instance : Coe String Text where
  coe := Text.ofString

end DebugLens
