import DebugLens.Import.Directive

/-!
# The C# notation of import directives

A tag and its fields: `U` namespace, `E` namespace and extern alias, `T` type, `A` alias and a
nested `U`, `T` or `E` directive, `X` extern alias, `Z` extern alias and assembly. Fields are
separated by the first space; the field after it is never empty.
-/
namespace DebugLens.Import.CSharp

/-- The separator of fields. -/
def separator : Char := ' '

/-- Two fields of a text that begins with a tag, which errors show as well. -/
def taggedFields (tag : Char) (rest : Text) : Except DirectiveError (Text × Text) :=
  match fieldsAt? separator rest with
  | some fields => .ok fields
  | none => .error (.fields separator (.char tag :: rest))

/-- The directive that an alias names; `whole` is the text that errors show. -/
def readAliased (whole name target : Text) : Except DirectiveError Directive :=
  match target with
  | [] => .error (.fields separator whole)
  | .char 'U' :: rest =>
    .ok { kind := .namespaceMembers, alias? := some name, target? := some rest }
  | .char 'T' :: rest =>
    .ok { kind := .typeMembers, alias? := some name, target? := some rest }
  | .char 'E' :: rest => do
    let (target, externAlias) ← taggedFields 'E' rest
    return {
      kind := .namespaceMembers
      alias? := some name, externAlias? := some externAlias, target? := some target }
  | tag :: _ => .error (.aliasTarget tag whole)

/-- The directive of a string. -/
def read (text : Text) : Except DirectiveError Directive :=
  match text with
  | [] => .error .empty
  | .char 'U' :: rest => .ok { kind := .namespaceMembers, target? := some rest }
  | .char 'E' :: rest => do
    let (target, externAlias) ← taggedFields 'E' rest
    return { kind := .namespaceMembers, externAlias? := some externAlias, target? := some target }
  | .char 'T' :: rest => .ok { kind := .typeMembers, target? := some rest }
  | .char 'A' :: rest => do
    let (name, target) ← taggedFields 'A' rest
    readAliased text name target
  | .char 'X' :: rest => .ok { kind := .assembly, alias? := some rest }
  | .char 'Z' :: rest => do
    let (name, target) ← taggedFields 'Z' rest
    return { kind := .assembly, alias? := some name, target? := some target }
  | tag :: _ => .error (.unknownTag tag)

/-- Two fields after a tag. -/
def writeFields (tag : Char) (first second : Text) : Text :=
  .char tag :: first ++ .char separator :: second

/-- The string of a directive without its alias. -/
def writeTarget (directive : Directive) (target : Text) : Except DirectiveError Text :=
  match directive.kind, directive.externAlias? with
  | .namespaceMembers, some externAlias => .ok (writeFields 'E' target externAlias)
  | .namespaceMembers, none => .ok (.char 'U' :: target)
  | .typeMembers, some _ => .error .aliasedType
  | .typeMembers, none => .ok (.char 'T' :: target)
  | kind, _ => .error (.unwritable kind)

/-- The string of a directive. -/
def write (directive : Directive) : Except DirectiveError Text :=
  match directive.kind, directive.alias?, directive.target? with
  | .assembly, none, _ => .error .unnamedAlias
  | .assembly, some name, none => .ok (.char 'X' :: name)
  | .assembly, some name, some target => .ok (writeFields 'Z' name target)
  | kind, _, none => .error (.untargeted kind)
  | _, none, some target => writeTarget directive target
  | _, some name, some target => do
    let body ← writeTarget directive target
    return writeFields 'A' name body

/-- The string gives an extern alias to an assembly. -/
def isExternAlias (text : Text) : Bool :=
  match text with
  | .char 'Z' :: _ => true
  | _ => false

end DebugLens.Import.CSharp
