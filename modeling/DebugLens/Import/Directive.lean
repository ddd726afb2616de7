import DebugLens.Text.Quoted

/-!
# Import directives

An import directive brings names into scope: the members of a namespace, a type, an assembly
under an alias, and so on. Compilers store directives as strings, in one notation per language.
-/
namespace DebugLens.Import

/-- What a directive imports. -/
inductive TargetKind where
  /-- The members of a namespace. -/
  | namespaceMembers
  /-- A type. -/
  | typeMembers
  /-- A namespace or a type, not told apart. -/
  | namespaceOrType
  /-- An assembly, under an extern alias. -/
  | assembly
  /-- An XML namespace. -/
  | xmlNamespace
  /-- The imports of another method. -/
  | methodToken
  /-- The namespace that the method belongs to. -/
  | currentNamespace
  /-- The root namespace of the project. -/
  | defaultNamespace
  /-- Something that no longer has a meaning. -/
  | defunct
deriving DecidableEq, Repr

/-- The name that output uses for a kind. -/
def TargetKind.label : TargetKind → String
  | .namespaceMembers => "NAMESPACE"
  | .typeMembers => "TYPE"
  | .namespaceOrType => "NAMESPACE_OR_TYPE"
  | .assembly => "ASSEMBLY"
  | .xmlNamespace => "XML_NAMESPACE"
  | .methodToken => "METHOD_TOKEN"
  | .currentNamespace => "CURRENT_NAMESPACE"
  | .defaultNamespace => "DEFAULT_NAMESPACE"
  | .defunct => "DEFUNCT"

/-- How far a directive reaches. -/
inductive Reach where
  /-- The notation does not say. -/
  | unspecified
  /-- One file. -/
  | file
  /-- The whole project. -/
  | project
deriving DecidableEq, Repr

/-- The name that output uses for a reach. -/
def Reach.label : Reach → String
  | .unspecified => "UNSPECIFIED"
  | .file => "FILE"
  | .project => "PROJECT"

/-- A directive, read from its string. -/
structure Directive where
  /-- What it imports. -/
  kind : TargetKind
  /-- The name given to the target. -/
  alias? : Option Text := none
  /-- The extern alias of the assembly that holds the target. -/
  externAlias? : Option Text := none
  /-- The target. -/
  target? : Option Text := none
  /-- How far it reaches. -/
  reach : Reach := .unspecified
deriving DecidableEq, Repr

/-- Why a string is no directive, or a directive has no string. -/
inductive DirectiveError where
  /-- The string is empty. -/
  | empty
  /-- There is no string. -/
  | missing
  /-- Two fields around a separator are expected, the second one not empty. -/
  | fields (separator : Char) (text : Text)
  /-- An alias is given to a target of an unknown kind. -/
  | aliasTarget (mark : CodePoint) (text : Text)
  /-- The first character names no kind of directive. -/
  | unknownTag (mark : CodePoint)
  /-- The string ends after its mark. -/
  | truncated (text : Text)
  /-- A colon is missing after a mark. -/
  | colon (mark : CodePoint) (text : Text)
  /-- An extern alias has no name. -/
  | unnamedAlias
  /-- A directive that needs a target has none. -/
  | untargeted (kind : TargetKind)
  /-- A type is said to lie in an assembly with an extern alias. -/
  | aliasedType
  /-- The notation has no such directive. -/
  | unwritable (kind : TargetKind)
deriving DecidableEq, Repr

/-- The wording of an error. -/
def DirectiveError.message : DirectiveError → String
  | .empty => "empty import string"
  | .missing => "missing import string"
  | .fields separator text =>
    "expected '" ++ String.singleton separator ++ "' separated fields in " ++ Text.quoted text
  | .aliasTarget mark text =>
    "unknown alias target tag " ++ Text.quoted [mark] ++ " in " ++ Text.quoted text
  | .unknownTag mark => "unknown C# import tag " ++ Text.quoted [mark]
  | .truncated text => "truncated import string " ++ Text.quoted text
  | .colon mark text =>
    "expected ':' after " ++ Text.quoted [mark] ++ " in " ++ Text.quoted text
  | .unnamedAlias => "extern alias requires an alias"
  | .untargeted kind => kind.label ++ " import requires a target"
  | .aliasedType => "type imports cannot name an extern alias"
  | .unwritable kind => kind.label ++ " imports have no C# encoding"

/-- The text before the first separator and the text after it, which must not be empty. -/
def fieldsAt? (separator : Char) (text : Text) : Option (Text × Text) :=
  match text.span (· ≠ .char separator) with
  | (before, _ :: c :: after) => some (before, c :: after)
  | _ => none

end DebugLens.Import
