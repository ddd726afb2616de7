import DebugLens.Assoc
import DebugLens.Dump.Fields
import DebugLens.Signature.Decoder
import DebugLens.Text.Blank

/-!
# Type tables

A type table gives names to the types that handles refer to. Its entries are read in order; the
underlying type of an enumeration is looked up among the types read before it. A serialized type
name is looked up without its assembly qualification, which starts at the first comma outside
brackets; a name in the table comes first, then the special types, and any other name is that of
a reference type.
-/
namespace DebugLens

/-- An entry of a type table: its members by name. -/
abbrev TypeEntry := List (Text × Json)

/-- Types by token and by name. -/
structure TypeTable where
  /-- The types by token. -/
  byToken : List (Int × TypeSymbol) := []
  /-- The types by name. -/
  byName : List (Text × TypeSymbol) := []
deriving Repr

namespace TypeTable

/-- The special types that are not primitive, by name. -/
def compound : List (Text × SpecialType) :=
  [("System.Object", .object), ("System.String", .string), ("System.Decimal", .decimal),
    ("System.DateTime", .dateTime)]

/-- The special types by name. -/
def wellKnown : List (Text × SpecialType) := Signature.primitives.map (·.2) ++ compound

/-- The part of a type name before the first comma outside brackets; `depth` brackets are open
at its start. -/
def unqualified : Int → Text → Text
  | _, [] => []
  | depth, c :: rest =>
    if c = .char '[' then c :: unqualified (depth + 1) rest
    else if c = .char ']' then c :: unqualified (depth - 1) rest
    else if c = .char ',' && depth = 0 then []
    else c :: unqualified depth rest

/-- A type name without assembly qualification and white space around it. -/
def bareName (name : Text) : Text := Text.trim (unqualified 0 name)

/-- The type of a name that is not in a table. -/
def typeOfName (name : Text) : TypeSymbol :=
  match wellKnown.lookup name with
  | some special => { name, special, isReference := special = .object || special = .string }
  | none => { name, isReference := true }

/-- The type that a serialized name refers to. -/
def resolve (table : TypeTable) (name : Text) : TypeSymbol :=
  let bare := bareName name
  if bare = "" then .missing name
  else (table.byName.lookup bare).getD (typeOfName bare)

/-- The types by token, as a signature needs them. -/
def tokens (table : TypeTable) : Signature.TokenTable := fun token => table.byToken.lookup token

/-- A comma stands outside brackets in a list of texts, `depth` brackets being open. -/
def hasOuterComma : Int → List Text → Bool
  | _, [] => false
  | depth, text :: texts =>
    if text = "[" then hasOuterComma (depth + 1) texts
    else if text = "]" then hasOuterComma (depth - 1) texts
    else (text = "," && depth = 0) || hasOuterComma depth texts

/-- The serialized name that an entry gives for its underlying type. -/
def serializedName : Json → Except DumpError Text
  | .string name => .ok name
  | .array items => .error (.noOperation (Json.array items).kindName "strip")
  | .object members =>
    if hasOuterComma 0 (members.map (·.1)) then .error (.notKey "slice")
    else .error (.noOperation (Json.object members).kindName "strip")
  | value => .error (.notSequence value.kindName)

/-- The name of the type in an entry, made up from the token if none is given. -/
def entryName (token : Int) (entry : TypeEntry) : Except DumpError Text :=
  match (Json.member? entry "name").filter Json.isGiven with
  | some name => Dump.plainText name
  | none => .ok ("<type " ++ Text.tokenText token ++ ">")

/-- The underlying type in an entry. -/
def entryUnderlying? (table : TypeTable) (entry : TypeEntry) :
    Except DumpError (Option TypeSymbol) :=
  match (Json.member? entry "enum_underlying").filter Json.isGiven with
  | none => .ok none
  | some value => do
    let name ← serializedName value
    return some (table.resolve name)

/-- A table with one more entry. -/
def add (table : TypeTable) (token : Int) (entry : TypeEntry) : Except DumpError TypeTable := do
  let name ← entryName token entry
  let enumUnderlying? ← table.entryUnderlying? entry
  let isValueType := ((Json.member? entry "value_type").filter Json.isGiven).isSome
  let type : TypeSymbol :=
    { name, enumUnderlying?, isReference := !(isValueType || enumUnderlying?.isSome) }
  return { byToken := assign token type table.byToken, byName := assign name type table.byName }

/-- The table of entries in order. -/
def ofEntries (entries : List (Int × TypeEntry)) : Except DumpError TypeTable :=
  entries.foldlM (fun table (token, entry) => table.add token entry) {}

end TypeTable

end DebugLens
