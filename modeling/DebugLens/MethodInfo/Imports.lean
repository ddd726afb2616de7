import DebugLens.Assembly.DisplayName
import DebugLens.Dump.Basic
import DebugLens.Import.VisualBasic
import DebugLens.MethodInfo.Basic

/-!
# The imports of a method

The import strings of a method become records; strings that are no directives are left out. With
a type table, type imports of C# are resolved to types. Visual Basic imports come in two groups,
those of the file and those of the project, and the last default namespace counts.
-/
namespace DebugLens

/-- The record of a C# directive. -/
def recordOfDirective (types? : Option TypeTable) (directive : Import.Directive) :
    ImportRecord where
  kind := directive.kind
  alias? := directive.alias?
  externAlias? := directive.externAlias?
  target :=
    match directive.kind, types?, directive.target? with
    | .typeMembers, some types, some name => .type (types.resolve name)
    | _, _, some name => .text name
    | _, _, none => .unnamed

/-- The record of a C# import string, if it is a directive. -/
def csharpRecord? (types? : Option TypeTable) (text : Text) : Option ImportRecord :=
  (Import.CSharp.read text).toOption.map (recordOfDirective types?)

/-- The extern alias of a string, if it names an alias and an assembly that can be read. -/
def externAlias? (text : Text) : Option ExternAlias := do
  let directive ← (Import.CSharp.read text).toOption
  match directive.kind, directive.alias?, directive.target? with
  | .assembly, some name, some target =>
    let assembly ← (Assembly.readDisplayName target).toOption
    return { name, assembly }
  | _, _, _ => none

/-- Imports and extern aliases. -/
structure CSharpImports where
  /-- The imports by nesting level. -/
  groups : List (List ImportRecord) := []
  /-- The extern aliases. -/
  externs : List ExternAlias := []
deriving Repr

/-- The imports and extern aliases of a C# method. -/
def csharpImports (dump : Dump) (types? : Option TypeTable) (token version : Int) :
    Except CustomInfoError CSharpImports := do
  match ← Import.groupedStrings (dump.source version) token with
  | none => return {}
  | some strings =>
    return {
      groups := strings.groups.map fun group => group.filterMap (csharpRecord? types?)
      externs := strings.externAliases.filterMap externAlias? }

/-- Visual Basic imports, while they are being collected. -/
structure BasicImports where
  /-- The imports of the file. -/
  file : List ImportRecord := []
  /-- The imports of the project. -/
  project : List ImportRecord := []
  /-- The default namespace. -/
  defaultNamespace : Text := ""
deriving Repr

/-- The imports after one more directive. -/
def BasicImports.add (imports : BasicImports) (directive : Import.Directive) : BasicImports :=
  match directive.kind with
  | .defunct => imports
  | .defaultNamespace => { imports with defaultNamespace := directive.target?.getD "" }
  | kind =>
    let target := match directive.target? with
      | some name => ImportTarget.text name
      | none => .unnamed
    let record : ImportRecord := { kind, alias? := directive.alias?, target }
    match directive.reach with
    | .project => { imports with project := imports.project ++ [record] }
    | _ => { imports with file := imports.file ++ [record] }

/-- The imports of Visual Basic import strings. -/
def BasicImports.ofStrings (strings : List Text) : BasicImports :=
  (strings.filterMap fun text => (Import.VisualBasic.read text).toOption).foldl
    BasicImports.add {}

/-- The imports of a Visual Basic method, if it has import strings. -/
def basicImports? (dump : Dump) (token version : Int) :
    Except Text.LongNumeral (Option BasicImports) := do
  let strings? ← Import.visualBasicStrings (dump.importStrings? version) token
  return strings?.map .ofStrings

end DebugLens
