import DebugLens.Text.CodePoint

/-!
# White space

The white space of Unicode text, and the operations that cut a text at it: trimming either end
and splitting into words. Fields of binary notations admit only the ASCII part of the class.
-/
namespace DebugLens.Text

/-- White space of any script, the four information separators included. -/
def isBlank (c : CodePoint) : Bool :=
  let n := c.toNat
  (0x09 ≤ n && n ≤ 0x0D) || (0x1C ≤ n && n ≤ 0x20) || n == 0x85 || n == 0xA0 || n == 0x1680 ||
    (0x2000 ≤ n && n ≤ 0x200A) || n == 0x2028 || n == 0x2029 || n == 0x202F || n == 0x205F ||
    n == 0x3000

/-- The white space that ASCII notations admit: the space and the five layout controls. -/
def isAsciiBlank (c : Char) : Bool :=
  let n := c.toNat
  (0x09 ≤ n && n ≤ 0x0D) || n == 0x20

/-- A list without the items of a class at its end. -/
def dropEndWhile {α : Type} (drop : α → Bool) (items : List α) : List α :=
  (items.reverse.dropWhile drop).reverse

/-- A list without the items of a class at either end. -/
def trimBoth {α : Type} (drop : α → Bool) (items : List α) : List α :=
  dropEndWhile drop (items.dropWhile drop)

/-- A text without white space at either end. -/
def trim (text : Text) : Text := trimBoth isBlank text

/-- The character is white space. -/
def isBlankChar (c : Char) : Bool := isBlank c

/-- A string without white space at either end. -/
def strip (string : String) : String := String.ofList (trimBoth isBlankChar string.toList)

/-- A string without white space at its end. -/
def stripEnd (string : String) : String := String.ofList (dropEndWhile isBlankChar string.toList)

/-- The maximal runs of characters that are not white space. -/
def words (string : String) : List String :=
  ((string.toList.splitBy fun left right => isBlankChar left == isBlankChar right).filter
    fun run => run.any fun c => !isBlankChar c).map String.ofList

end DebugLens.Text
