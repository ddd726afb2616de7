import DebugLens.CustomInfo.Bodies
import DebugLens.CustomInfo.Container
import DebugLens.Import.CSharp
import DebugLens.Text.Digit

/-!
# The import strings of a method

For C#, the using record of a method says how its import strings fall into groups, one per
nesting level, and extern aliases follow the groups. A forward record hands over to another
method, once; a forward-to-module record takes the extern aliases from yet another one. For
Visual Basic, the first string may name the method whose strings apply, by a numeral that must not
have too many digits.
-/
namespace DebugLens.Import

/-- Where the custom debug info and the import strings of methods are found, by token. -/
structure MethodSource where
  /-- The custom debug info of a method. -/
  customInfo? : Int → Option Bytes
  /-- The import strings of a method. -/
  importStrings? : Int → Option (List Text)

/-- What the records read so far say. -/
structure Outline where
  /-- The method whose strings are to be grouped. -/
  token : Int
  /-- The sizes of the groups. -/
  sizes? : Option (List Nat) := none
  /-- The extern aliases of the module. -/
  moduleAliases? : Option (List Text) := none
  /-- A forward has been followed. -/
  followed : Bool := false
deriving DecidableEq, Repr

/-- The outline after a record, and whether it hands over to another method. A later forward
record is not followed, but its token replaces the one whose strings are grouped. -/
def Outline.step (source : MethodSource) (outline : Outline) (record : CustomInfo.Record) :
    Except CustomInfoError (Outline × Bool) :=
  if record.kind = CustomInfo.Kind.usingGroups.code then
    match outline.sizes? with
    | some _ => .error (.repeatedUsing outline.token)
    | none => do
      let sizes ← CustomInfo.groupSizes record.data
      return ({ outline with sizes? := some sizes }, false)
  else if record.kind = CustomInfo.Kind.forward.code then
    match outline.moduleAliases? with
    | some _ => .error (.forwardAfterModule outline.token)
    | none => do
      let token ← CustomInfo.forwardTarget record.data
      return ({ outline with token, followed := true }, !outline.followed)
  else if record.kind = CustomInfo.Kind.forwardToModule.code then
    match outline.moduleAliases? with
    | some _ => .error (.repeatedModule outline.token)
    | none => do
      let token ← CustomInfo.forwardTarget record.data
      let strings := (source.importStrings? token).getD []
      return ({ outline with moduleAliases? := some (strings.filter CSharp.isExternAlias) }, false)
  else .ok (outline, false)

/-- The outline after the records of one method, up to a record that hands over. The fault of
the scan counts only if the records before it do not hand over. -/
def Outline.steps (source : MethodSource) (fault? : Option CustomInfoError) :
    Outline → List CustomInfo.Record → Except CustomInfoError (Outline × Bool)
  | outline, [] =>
    match fault? with
    | some fault => .error fault
    | none => .ok (outline, false)
  | outline, record :: records => do
    let (next, handsOver) ← outline.step source record
    if handsOver then return (next, true) else next.steps source fault? records

/-- The outline after the records of the method that it names, if that method has any custom
debug info. -/
def Outline.visit (source : MethodSource) (outline : Outline) :
    Except CustomInfoError (Option (Outline × Bool)) :=
  match source.customInfo? outline.token with
  | none => .ok none
  | some [] => .ok none
  | some blob =>
    let scan := CustomInfo.scan blob
    (outline.steps source scan.fault? scan.records).map some

/-- The outline of a method, after at most one handing over. -/
def outlineOf (source : MethodSource) (token : Int) :
    Except CustomInfoError (Option Outline) := do
  match ← Outline.visit source { token } with
  | none => return none
  | some (outline, false) => return some outline
  | some (outline, true) =>
    let next ← outline.visit source
    return next.map fun (outline, _) => outline

/-- The first strings, as many as a group has, and the rest. -/
def takeGroup (token : Int) : Nat → List Text →
    Except CustomInfoError (List Text × List Text)
  | 0, strings => .ok ([], strings)
  | _ + 1, [] => .error (.missingStrings token)
  | size + 1, text :: strings =>
    if CSharp.isExternAlias text then .error (.earlyAlias token)
    else do
      let (group, rest) ← takeGroup token size strings
      return (text :: group, rest)

/-- The strings in groups of the given sizes, and the rest. -/
def takeGroups (token : Int) : List Nat → List Text →
    Except CustomInfoError (List (List Text) × List Text)
  | [], strings => .ok ([], strings)
  | size :: sizes, strings => do
    let (group, rest) ← takeGroup token size strings
    let (groups, rest) ← takeGroups token sizes rest
    return (group :: groups, rest)

/-- Import strings in groups, and the extern aliases. -/
structure GroupedStrings where
  /-- One group per nesting level. -/
  groups : List (List Text)
  /-- The extern aliases. -/
  externAliases : List Text
deriving DecidableEq, Repr

/-- Group the strings of the method that an outline ended on. -/
def Outline.group (outline : Outline) (sizes : List Nat) (strings : List Text) :
    Except CustomInfoError GroupedStrings := do
  let (groups, rest) ← takeGroups outline.token sizes strings
  match outline.moduleAliases? with
  | none =>
    if rest.all CSharp.isExternAlias then return ⟨groups, rest⟩
    else throw (.lateImport outline.token)
  | some aliases =>
    if rest.isEmpty then return ⟨groups, aliases⟩ else throw (.extraStrings outline.token)

/-- The grouped import strings of a C# method, if it has custom debug info with group sizes. -/
def groupedStrings (source : MethodSource) (token : Int) :
    Except CustomInfoError (Option GroupedStrings) := do
  match ← outlineOf source token with
  | none => return none
  | some outline =>
    match outline.sizes? with
    | none => return none
    | some sizes =>
      let strings := (source.importStrings? outline.token).getD []
      let grouped ← outline.group sizes strings
      return some grouped

/-- The token that a string consisting of `@` and decimal digits names, if the string is one; it is
refused if there are too many digits. -/
def forwardedToken? : Text → Except Text.LongNumeral (Option Int)
  | .char '@' :: c :: rest =>
    match (c :: rest).mapM CodePoint.char? with
    | none => .ok none
    | some digits =>
      if digits.all Text.isAsciiDigit then do
        let token ← Text.asciiValue digits
        return some token
      else .ok none
  | _ => .ok none

/-- The import strings of a Visual Basic method, after at most one handing over. -/
def visualBasicStrings (importStrings? : Int → Option (List Text)) (token : Int) :
    Except Text.LongNumeral (Option (List Text)) :=
  match importStrings? token with
  | none => .ok none
  | some [] => .ok (some [])
  | some (first :: rest) => do
    match ← forwardedToken? first with
    | some target => return importStrings? target
    | none => return some (first :: rest)

end DebugLens.Import
