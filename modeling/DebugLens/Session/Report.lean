import DebugLens.Json.Printer
import DebugLens.Session.Basic

/-!
# Reports

A report is what a command has to say, as lines of text and as JSON data. Which of the two is
printed depends on the session. In lines, what is missing or empty is shown by a stand-in; in
data, a missing text is null and so is an empty list of flags.
-/
namespace DebugLens

/-- What a command has to say. -/
structure Report where
  /-- The lines of text. -/
  lines : List Text
  /-- The JSON data. -/
  data : Json
deriving Repr

/-- The printed text of a report. -/
def Session.print (session : Session) (report : Report) : Text :=
  if session.json then
    .ofLines [Json.pretty (.object [("status", .string "ok"), ("result", report.data)])]
  else .ofLines report.lines

/-- The printed text of an error. -/
def Session.printError (session : Session) (message : String) : Text :=
  if session.json then
    .ofLines [Json.pretty (.object [("status", .string "error"), ("error", .string message)])]
  else .ofLines ["error: " ++ message]

namespace Report

/-- A text that may be missing. -/
def textOrNull : Option Text → Json
  | none => .null
  | some text => .string text

/-- The text, or a stand-in if it is missing or empty. -/
def textOr (standIn : Text) (text? : Option Text) : Text :=
  match text? with
  | none => standIn
  | some text => if text = "" then standIn else text

/-- A text with something around it, or nothing at all if it is missing or empty. -/
def enclosed (before after : Text) (text? : Option Text) : Text :=
  match text? with
  | none => ""
  | some text => if text = "" then "" else before ++ text ++ after

/-- The items, or a stand-in if there are none. -/
def listed (standIn : Text) (items : List Text) : Text :=
  if items.isEmpty then standIn else Text.join ", " items

/-- A line, unless there is nothing to say. -/
def lineIf (condition : Bool) (line : Text) : List Text := if condition then [line] else []

/-- Flags as digits. -/
def flagText (flags : FlagList) : Text :=
  flags.map fun flag => .char (if flag then '1' else '0')

/-- Flags as digits, unless there are none. -/
def flagText? (flags? : Option FlagList) : Option Text :=
  (flags?.filter fun flags => !flags.isEmpty).map flagText

/-- A text filled up with spaces at its end. -/
def padRight (width : Nat) (text : Text) : Text :=
  text ++ List.replicate (width - text.length) (.char ' ')

/-- The data of an import. -/
def importData (record : ImportRecord) : Json :=
  .object [("kind", .string record.kind.label), ("alias", textOrNull record.alias?),
    ("target", textOrNull record.target.shown?), ("extern_alias", textOrNull record.externAlias?)]

/-- The line of an import. -/
def importLine (record : ImportRecord) : Text :=
  "    " ++ padRight 18 record.kind.label ++ " " ++ enclosed "" " = " record.alias? ++
    textOr "" record.target.shown? ++ enclosed " (extern " ")" record.externAlias?

/-- The lines of a group of imports under a label. -/
def groupLines (label : String) (group : List ImportRecord) : List Text :=
  ("  " ++ label ++ ":") :: if group.isEmpty then ["    (none)"] else group.map importLine

/-- The label of a group: Visual Basic has a file and a project group, other groups are
numbered. -/
def groupLabel (visualBasic : Bool) (index : Nat) : String :=
  match visualBasic, index with
  | true, 0 => "file"
  | true, 1 => "project"
  | _, _ => "group " ++ toString index

/-- The data of an extern alias. -/
def externData (record : ExternAlias) : Json :=
  .object [("alias", .string record.name), ("assembly", .string record.assembly.displayName)]

/-- The data of groups of imports. -/
def groupData (groups : List (List ImportRecord)) : Json :=
  .array (groups.map fun group => .array (group.map importData))

/-- The data of a constant. -/
def constantData (constant : ConstantSymbol) : Json :=
  .object [("name", .string constant.name), ("type", .string constant.type.name),
    ("value", .string constant.value.shown), ("dynamic", textOrNull (flagText? constant.flags?))]

/-- A constant as type, name and value. -/
def constantText (constant : ConstantSymbol) : Text :=
  constant.type.name ++ " " ++ constant.name ++ " = " ++ constant.value.shown

/-- The line of an extern alias among imports. -/
def externLine (record : ExternAlias) : Text :=
  "  extern alias " ++ record.name ++ " = " ++ record.assembly.displayName

/-- The imports of a method. -/
def ofImports (header : String) (visualBasic : Bool) (info : MethodInfo) : Report where
  lines :=
    ↑header :: lineIf info.groups.isEmpty "  (no imports)" ++
      (info.groups.mapIdx fun index group =>
        groupLines (groupLabel visualBasic index) group).flatten ++
      lineIf (info.defaultNamespace ≠ "") ("  default namespace: " ++ info.defaultNamespace) ++
      info.externs.map externLine
  data := .object [("import_groups", groupData info.groups),
    ("extern_aliases", .array (info.externs.map externData)),
    ("default_namespace", .string info.defaultNamespace)]

/-- A hoisted scope as its start and its length. -/
def hoistedText (scope : HoistedScope) : Text :=
  "0x" ++ Text.hexUpper 0 scope.start ++ "+" ++ toString scope.length

/-- The line of an extern alias among all that is known. -/
def externInfoLine (record : ExternAlias) : Text :=
  "  extern     : " ++ record.name ++ " -> " ++ record.assembly.displayName

/-- The line of a constant among all that is known. -/
def constantInfoLine (constant : ConstantSymbol) : Text :=
  "  const      : " ++ constantText constant ++
    enclosed "  dynamic=" "" (flagText? constant.flags?)

/-- What is known about a method, as lines. -/
def infoLines (info : MethodInfo) : List Text :=
  [("  reuse span : " ++ info.reuseSpan.text : Text)] ++
    lineIf (info.defaultNamespace ≠ "") ("  default ns : " ++ info.defaultNamespace) ++
    lineIf (!info.hoisted.isEmpty)
      ("  hoisted    : " ++ Text.join ", " (info.hoisted.map hoistedText)) ++
    info.externs.map externInfoLine ++
    [("  locals     : " ++ listed "(none)" (info.localNames.map (textOr "-")) : Text)] ++
    info.constants.map constantInfoLine

/-- What is known about a method, as data. -/
def infoData (info : MethodInfo) : Json :=
  .object [
    ("reuse_span", .array [.integer info.reuseSpan.start, .integer info.reuseSpan.stop]),
    ("default_namespace", .string info.defaultNamespace),
    ("import_groups", groupData info.groups),
    ("extern_aliases", .array (info.externs.map externData)),
    ("hoisted_scopes", .array (info.hoisted.map fun scope =>
      .array [.integer scope.start, .integer scope.length])),
    ("local_names", .array (info.localNames.map textOrNull)),
    ("constants", .array (info.constants.map constantData)),
    ("dynamic_slots", .object (info.dynamic.bySlot.map fun (slot, flags) =>
      (toString slot, .string (flagText flags)))),
    ("dynamic_constants", .object (info.dynamic.byName.map fun (name, flags) =>
      (name, .string (flagText flags))))]

/-- What is known about a method. -/
def ofInfo (header : String) (info : MethodInfo) : Report where
  lines := ↑header :: infoLines info
  data := infoData info

/-- What there is to say about a local besides its type and name. -/
def localMarks (symbol : LocalSymbol) : List Text :=
  lineIf symbol.localType.pinned "pinned" ++ lineIf symbol.localType.byReference "byref" ++
    (flagText? symbol.flags?).toList.map fun (text : Text) => ("dynamic=" ++ text : Text)

/-- The line of a local. -/
def localLine (symbol : LocalSymbol) : Text :=
  "  [" ++ toString symbol.slot ++ "] " ++ symbol.localType.type.name ++ " " ++
    textOr "<unnamed>" symbol.name? ++
    enclosed "  [" "]" (some (listed "" (localMarks symbol)))

/-- The line of a constant below locals. -/
def constantLine (constant : ConstantSymbol) : Text :=
  "  const " ++ constantText constant ++
    enclosed "  [dynamic=" "]" (flagText? constant.flags?)

/-- The data of a local. -/
def localData (symbol : LocalSymbol) : Json :=
  .object [("slot", .integer symbol.slot), ("name", textOrNull symbol.name?),
    ("type", .string symbol.localType.type.name), ("pinned", .boolean symbol.localType.pinned),
    ("byref", .boolean symbol.localType.byReference),
    ("dynamic", textOrNull (flagText? symbol.flags?))]

/-- The locals and constants of a method. -/
def ofLocals (header : String) (locals : List LocalSymbol) (info : MethodInfo) : Report where
  lines :=
    ↑header :: lineIf (locals.isEmpty && info.constants.isEmpty) "  (no locals)" ++
      locals.map localLine ++ info.constants.map constantLine
  data := .object [("locals", .array (locals.map localData)),
    ("constants", .array (info.constants.map constantData))]

/-- The path of the loaded dump. -/
def ofPath (path? : Option String) : Report where
  lines := ["PDB dump: " ++ textOr "(unset)" (path?.map Text.ofString)]
  data := .object [("pdb_path", textOrNull (path?.map Text.ofString))]

/-- A method as its token and version, unless the version has too many digits. -/
def methodText? (method : Method) : Option String :=
  (Text.decimalText? method.version).map fun version =>
    Text.tokenText method.token ++ "/" ++ version

/-- The dump that has just been loaded, if all its methods have a text. -/
def ofDump? (path : String) (dump : Dump) : Option Report := do
  let methods ← dump.sortedMethods.mapM methodText?
  return {
    lines := ["Loaded " ++ toString dump.methods.length ++ " methods from " ++ path]
    data := .object [("pdb_path", .string path),
      ("methods", .array (methods.map fun (method : String) => .string method))] }

end Report

end DebugLens
