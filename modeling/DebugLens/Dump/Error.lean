import DebugLens.Json.Basic
import DebugLens.Text.IntegerLiteral

/-!
# Faults of symbol dumps

A dump is refused for a value that is wrong, for a member that is missing, or for a value whose
shape does not offer what the dump needs of it.
-/
namespace DebugLens

/-- Why a dump is refused. -/
inductive DumpError where
  /-- The value is neither an integer nor a text. -/
  | notInteger (value : Json)
  /-- The text is no integer literal. -/
  | integerText (text : Text)
  /-- An integer in a name or an import string has too many digits to be written. -/
  | longInteger
  /-- The value is not a text of hexadecimal digits. -/
  | notHexText (value : Json)
  /-- The character at a position is not the hexadecimal digit expected there. -/
  | hexDigit (position : Nat)
  /-- An item of a list of pairs has another length than two. -/
  | pairLength (index length : Nat)
  /-- A member is missing. -/
  | missingMember (name : String)
  /-- A value of a kind does not offer an operation. -/
  | noOperation (kind operation : String)
  /-- A value of a kind is no sequence. -/
  | notSequence (kind : String)
  /-- An item of a list of pairs is no sequence. -/
  | notPair (index : Nat)
  /-- A value of a kind cannot be a key. -/
  | notKey (kind : String)
deriving Repr

/-- Words followed by a value, if the value has a text. -/
def messageAbout (words : String) (value : Json) : String :=
  match value.shown? with
  | some text => words ++ text
  | none => Text.longIntegerMessage

/-- The wording of an error. -/
def DumpError.message : DumpError → String
  | .notInteger value => messageAbout "expected integer, got " value
  | .integerText text => Text.literalMessage 0 text
  | .longInteger => Text.longIntegerMessage
  | .notHexText value => messageAbout "expected hex string, got " value
  | .hexDigit position =>
    "non-hexadecimal number found in fromhex() arg at position " ++ toString position
  | .pairLength index length =>
    "dictionary update sequence element #" ++ toString index ++ " has length " ++
      toString length ++ "; 2 is required"
  | .missingMember name => Text.quoted name
  | .noOperation kind operation =>
    "'" ++ kind ++ "' object has no attribute '" ++ operation ++ "'"
  | .notSequence kind => "'" ++ kind ++ "' object is not iterable"
  | .notPair index =>
    "cannot convert dictionary update sequence element #" ++ toString index ++ " to a sequence"
  | .notKey kind => "unhashable type: '" ++ kind ++ "'"

/-- The fault lies in a value, not in the shape of the dump. -/
def DumpError.isValueFault : DumpError → Bool
  | .notInteger _ => true
  | .integerText _ => true
  | .longInteger => true
  | .notHexText _ => true
  | .hexDigit _ => true
  | .pairLength _ _ => true
  | _ => false

end DebugLens
