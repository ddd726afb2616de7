import DebugLens.Json.Basic
import DebugLens.Text.Hex

/-!
# Printing JSON

Texts are printed in ASCII: code points beyond it are escaped by their UTF-16 code units. The
indented form puts every item and member on its own line, two spaces deeper than the bracket,
and sorts members by name in code point order.
-/
namespace DebugLens.Json

/-- A code unit as an escape. -/
def escapeUnit (unit : Nat) : List Char := '\\' :: 'u' :: Text.hexLower 4 unit

/-- A character between double quotes. -/
def escapeChar (c : Char) : List Char :=
  if c = '"' then ['\\', '"']
  else if c = '\\' then ['\\', '\\']
  else if c = '\n' then ['\\', 'n']
  else if c = '\r' then ['\\', 'r']
  else if c = '\t' then ['\\', 't']
  else if c = '\x0c' then ['\\', 'f']
  else if c = '\x08' then ['\\', 'b']
  else if 0x20 ≤ c.toNat && c.toNat ≤ 0x7E then [c]
  else if c.toNat < 0x10000 then escapeUnit c.toNat
  else
    escapeUnit (0xD800 + (c.toNat - 0x10000) / 0x400) ++
      escapeUnit (0xDC00 + (c.toNat - 0x10000) % 0x400)

/-- A code point between double quotes. -/
def escapeCodePoint : CodePoint → List Char
  | .char c => escapeChar c
  | half => escapeUnit half.toNat

/-- A text between double quotes. -/
def printText (text : Text) : String :=
  "\"" ++ String.ofList (text.flatMap escapeCodePoint) ++ "\""

/-- A number that is not an integer; the three special ones are printed as words. -/
def printFloat : Binary64 → String
  | .notANumber => "NaN"
  | .infinite negative => if negative then "-Infinity" else "Infinity"
  | value => value.text

/-- Members in the order of their names. -/
def sortMembers (members : List (Text × String)) : List (Text × String) :=
  members.mergeSort fun left right => left.1.precedes right.1

/-- A line end and an indentation. -/
def newLine (depth : Nat) : String := "\n" ++ String.ofList (List.replicate (2 * depth) ' ')

mutual

/-- The indented text of a value that stands `depth` levels deep. -/
def indented (depth : Nat) : Json → String
  | null => "null"
  | boolean value => if value then "true" else "false"
  | integer value => toString value
  | float value => printFloat value
  | string value => printText value
  | array [] => "[]"
  | array (item :: items) =>
    "[" ++ newLine (depth + 1) ++
      ("," ++ newLine (depth + 1)).intercalate (indentedItems (depth + 1) (item :: items)) ++
      newLine depth ++ "]"
  | object [] => "\x7b\x7d"
  | object (member :: members) =>
    let lines := (sortMembers (indentedMembers (depth + 1) (member :: members))).map
      fun (name, value) => printText name ++ ": " ++ value
    "\x7b" ++ newLine (depth + 1) ++ ("," ++ newLine (depth + 1)).intercalate lines ++
      newLine depth ++ "\x7d"

/-- The indented texts of the items of an array. -/
def indentedItems (depth : Nat) : List Json → List String
  | [] => []
  | item :: items => indented depth item :: indentedItems depth items

/-- The names and indented texts of the members of an object. -/
def indentedMembers (depth : Nat) : List (Text × Json) → List (Text × String)
  | [] => []
  | (name, value) :: members => (name, indented depth value) :: indentedMembers depth members

end

/-- The indented text of a value. -/
def pretty (value : Json) : String := indented 0 value

mutual

/-- The text of a value on one line, members in their own order. -/
def compact : Json → String
  | null => "null"
  | boolean value => if value then "true" else "false"
  | integer value => toString value
  | float value => printFloat value
  | string value => printText value
  | array items => "[" ++ ",".intercalate (compactItems items) ++ "]"
  | object members => "\x7b" ++ ",".intercalate (compactMembers members) ++ "\x7d"

/-- The texts of the items of an array. -/
def compactItems : List Json → List String
  | [] => []
  | item :: items => compact item :: compactItems items

/-- The texts of the members of an object. -/
def compactMembers : List (Text × Json) → List String
  | [] => []
  | (name, value) :: members =>
    (printText name ++ ":" ++ compact value) :: compactMembers members

end

end DebugLens.Json
