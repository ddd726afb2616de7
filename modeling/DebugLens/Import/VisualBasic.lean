import DebugLens.Import.Directive

/-!
# The Visual Basic notation of import directives

A string that does not start with a mark names the current namespace; `&`, `$` and `#` mark
defunct strings and `*` the default namespace. After `@` come an optional reach, `F` or `P`, and
the directive: `A:` and `X:` with a name and a target around `=`, `T:` with a type, `:` with a
namespace, or else the token of the method whose imports apply.
-/
namespace DebugLens.Import.VisualBasic

/-- The separator of a name and its target. -/
def separator : Char := '='

/-- A name and its target; `whole` is the text that errors show. -/
def readNamed (whole : Text) (kind : TargetKind) (reach : Reach) (rest : Text) :
    Except DirectiveError Directive :=
  match fieldsAt? separator rest with
  | some (name, target) => .ok { kind, reach, alias? := some name, target? := some target }
  | none => .error (.fields separator whole)

/-- The directive after `@` and the reach; `whole` is the text that errors show. -/
def readMarked (whole : Text) (reach : Reach) : Text → Except DirectiveError Directive
  | [] => .error (.truncated whole)
  | .char 'A' :: .char ':' :: rest => readNamed whole .namespaceOrType reach rest
  | .char 'X' :: .char ':' :: rest => readNamed whole .xmlNamespace reach rest
  | .char 'T' :: .char ':' :: rest => .ok { kind := .typeMembers, reach, target? := some rest }
  | .char ':' :: rest => .ok { kind := .namespaceMembers, reach, target? := some rest }
  | mark :: rest =>
    if mark = .char 'A' || mark = .char 'X' || mark = .char 'T' then .error (.colon mark whole)
    else .ok { kind := .methodToken, reach, target? := some (mark :: rest) }

/-- The directive of a string. -/
def read (text : Text) : Except DirectiveError Directive :=
  match text with
  | [] => .ok { kind := .currentNamespace, target? := some text }
  | .char '@' :: .char 'F' :: rest => readMarked text .file rest
  | .char '@' :: .char 'P' :: rest => readMarked text .project rest
  | .char '@' :: rest => readMarked text .unspecified rest
  | .char '*' :: rest => .ok { kind := .defaultNamespace, target? := some rest }
  | first :: _ =>
    if first = .char '&' || first = .char '$' || first = .char '#' then
      .ok { kind := .defunct, target? := some text }
    else .ok { kind := .currentNamespace, target? := some text }

/-- The directive of a string that may be missing. -/
def read? : Option Text → Except DirectiveError Directive
  | none => .error .missing
  | some text => read text

end DebugLens.Import.VisualBasic
