import DebugLens.Dump.Basic
import DebugLens.Json.Reader

/-!
# Reading symbol dumps

A dump is a JSON object with the members `methods`, `types` and `portable_metadata`. The parts
of a dump are read in a fixed order, so that of several faults the first one is reported: the
metadata, the types, then each method; in a method the token and the version, the scopes, the
strings of imports and the byte strings; in a scope the locals, the constants, the scopes inside,
then its ends; in a local or a constant the name comes first.

Scopes may be nested to any depth. That a machine runs out of stack on scopes that are nested too
deeply, at a depth that depends on where the reader is called from, is not covered here.
-/
namespace DebugLens.Dump

/-- A local of a scope. -/
def readLocal (value : Json) : Except DumpError LocalDeclaration := do
  let members ← membersOf value
  let name ← nameText (Json.member? members "name")
  let slot ← optionalInt members "slot" 0
  let attributes ← optionalInt members "attributes" 0
  return { name, slot, attributes }

/-- A constant of a scope. -/
def readConstant (value : Json) : Except DumpError ConstantDeclaration := do
  let members ← membersOf value
  let name ← nameText (Json.member? members "name")
  let signature? ← optionalBytes (Json.member? members "signature")
  return {
    name
    value := (Json.member? members "value").getD .null
    signature := signature?.getD [] }

mutual

/-- A scope with the scopes inside it. -/
def readScope : Json → Except DumpError Scope
  | .object members => do
    let localItems ← optionalItems (Json.member? members "locals")
    let locals ← localItems.mapM readLocal
    let constantItems ← optionalItems (Json.member? members "constants")
    let constants ← constantItems.mapM readConstant
    let children ← readChildren members
    let start ← optionalInt members "start" 0
    let stop ← optionalInt members "end" 0
    return .node start stop locals constants children
  | value => .error (.noOperation value.kindName "get")

/-- The scopes inside, found among the members of a scope. -/
def readChildren : List (Text × Json) → Except DumpError (List Scope)
  | [] => .ok []
  | (name, value) :: members =>
    if name = "children" then readChildItems value else readChildren members

/-- The scopes of a value that can be gone through. Only an array can hold scopes. -/
def readChildItems : Json → Except DumpError (List Scope)
  | .array items => readScopes items
  | .string text =>
    if text = "" then .ok [] else .error (.noOperation (Json.string text).kindName "get")
  | .object members =>
    if members.isEmpty then .ok [] else .error (.noOperation (Json.string "").kindName "get")
  | value => if value.isGiven then .error (.notSequence value.kindName) else .ok []

/-- The scopes of a list. -/
def readScopes : List Json → Except DumpError (List Scope)
  | [] => .ok []
  | value :: values => do
    let scope ← readScope value
    let scopes ← readScopes values
    return scope :: scopes

end

/-- The import strings of a method, which may be missing or null. -/
def readImportStrings : Option Json → Except DumpError (Option (List Text))
  | none => .ok none
  | some .null => .ok none
  | some value => do
    let items ← itemsOf value
    let texts ← items.mapM plainText
    return some texts

/-- The outermost scope of a method, which may be missing or null. -/
def readRoot : Option Json → Except DumpError (Option Scope)
  | none => .ok none
  | some .null => .ok none
  | some value => do
    let scope ← readScope value
    return some scope

/-- A method. -/
def readMethod (value : Json) : Except DumpError Method := do
  let members ← membersOf value
  let token ← match Json.member? members "token" with
    | some value => readInt value
    | none => throw (.missingMember "token")
  let version ← optionalInt members "version" 1
  let root? ← readRoot (Json.member? members "root_scope")
  let importStrings? ← readImportStrings (Json.member? members "import_strings")
  let customInfo? ← optionalBytes (Json.member? members "custom_debug_info")
  let localSignature? ← optionalBytes (Json.member? members "local_signature")
  return { token, version, root?, importStrings?, customInfo?, localSignature? }

/-- The entries of a type table, their tokens being member names. The members of an entry are
read before its token. -/
def readTypes (members : List (Text × Json)) : Except DumpError (List (Int × TypeEntry)) :=
  members.foldlM (fun entries (key, value) => do
    let entry ← entryMembers value
    let token ← readInt (.string key)
    return assign token entry entries) []

/-- The members of the type table, which may be missing. -/
def typeMembers (value? : Option Json) : Except DumpError (List (Text × Json)) :=
  match value?.filter Json.isGiven with
  | none => .ok []
  | some (.object members) => .ok members
  | some value => .error (.noOperation value.kindName "items")

/-- A dump. -/
def ofJson (value : Json) : Except DumpError Dump := do
  let members ← membersOf value
  let portable? ← optionalBytes (Json.member? members "portable_metadata")
  let typeEntries ← typeMembers (Json.member? members "types")
  let types ← readTypes typeEntries
  let methodItems ← optionalItems (Json.member? members "methods")
  let methods ← methodItems.foldlM (fun methods value => do
    let method ← readMethod value
    return putMethod method methods) []
  return { methods, portable?, types }

end DebugLens.Dump
