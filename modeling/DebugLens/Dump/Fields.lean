import DebugLens.Dump.Error
import DebugLens.Text.Hex

/-!
# Fields of a dump

Integers are numbers or integer literals, byte strings are hexadecimal text, and a list that is
missing, null or otherwise empty is the empty list. Objects and texts can be gone through like
lists, by their names and characters.
-/
namespace DebugLens.Dump

/-- The members of an object. -/
def membersOf : Json → Except DumpError (List (Text × Json))
  | .object members => .ok members
  | value => .error (.noOperation value.kindName "get")

/-- A code point as a text of its own. -/
def codePointText (c : CodePoint) : Json := .string [c]

/-- The items of a value that can be gone through. -/
def itemsOf : Json → Except DumpError (List Json)
  | .array items => .ok items
  | .string text => .ok (text.map codePointText)
  | .object members => .ok (members.map fun member => .string member.1)
  | value => .error (.notSequence value.kindName)

/-- The items of a list that may be missing. -/
def optionalItems (value? : Option Json) : Except DumpError (List Json) :=
  match value?.filter Json.isGiven with
  | some value => itemsOf value
  | none => .ok []

/-- An integer. -/
def readInt : Json → Except DumpError Int
  | .integer value => .ok value
  | .string text =>
    match Text.readInteger text with
    | some value => .ok value
    | none => .error (.integerText text)
  | value => .error (.notInteger value)

/-- An integer that may be missing. -/
def optionalInt (members : List (Text × Json)) (name : Text) (default : Int) :
    Except DumpError Int :=
  match Json.member? members name with
  | some value => readInt value
  | none => .ok default

/-- Bytes in hexadecimal, which may be missing or null. -/
def optionalBytes : Option Json → Except DumpError (Option Bytes)
  | none => .ok none
  | some .null => .ok none
  | some (.string text) =>
    match Text.readHex text with
    | .ok bytes => .ok (some bytes)
    | .error position => .error (.hexDigit position)
  | some value => .error (.notHexText value)

/-- The text of a value, where a string stands for itself. -/
def plainText (value : Json) : Except DumpError Text :=
  match value.plainText? with
  | some text => .ok text
  | none => .error .longInteger

/-- The text of a name; a name that is not given is empty. -/
def nameText (value? : Option Json) : Except DumpError Text :=
  match value?.filter Json.isGiven with
  | some value => plainText value
  | none => .ok ""

/-- A key and a value, the key being nothing when it is not a text. -/
def pairOf (index : Nat) : Json → Except DumpError (Option Text × Json)
  | .array [.array _, _] => .error (.notKey "list")
  | .array [.object _, _] => .error (.notKey "dict")
  | .array [.string key, value] => .ok (some key, value)
  | .array [_, value] => .ok (none, value)
  | .array items => .error (.pairLength index items.length)
  | .string [key, value] => .ok (some [key], codePointText value)
  | .string text => .error (.pairLength index text.length)
  | .object members =>
    match members with
    | [(key, _), (value, _)] => .ok (some key, .string value)
    | _ => .error (.pairLength index members.length)
  | _ => .error (.notPair index)

/-- The members given by pairs, the first one having the given index. -/
def pairMembers : Nat → List (Text × Json) → List Json →
    Except DumpError (List (Text × Json))
  | _, members, [] => .ok members
  | index, members, item :: items => do
    let (key?, value) ← pairOf index item
    let members := match key? with
      | some key => assign key value members
      | none => members
    pairMembers (index + 1) members items

/-- The members of an object, or of a list of pairs. -/
def entryMembers : Json → Except DumpError (List (Text × Json))
  | .object members => .ok members
  | value => do
    let items ← itemsOf value
    pairMembers 0 [] items

end DebugLens.Dump
