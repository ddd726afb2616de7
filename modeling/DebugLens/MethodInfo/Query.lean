import DebugLens.MethodInfo.Imports
import DebugLens.Scope.Reuse
import DebugLens.Scope.Walk

/-!
# Querying method info

A query combines everything a dump says about a method at an offset. Unusable custom debug info
leaves nothing known; any other fault, such as an import string that names a method by a numeral with
too many digits, leaves the query without an answer. If the dump has portable metadata and a decoder
for it is given, the decoder answers alone, and metadata that is malformed leaves nothing known
either.
-/
namespace DebugLens

/-- Why a decoder of portable metadata gives no answer. -/
inductive PortableError where
  /-- The metadata is malformed. -/
  | malformed (message : String)
  /-- The decoder failed in another way. -/
  | failed (message : String)
deriving DecidableEq, Repr

/-- Why a query has no answer. -/
inductive QueryError where
  /-- The custom debug info cannot be used. -/
  | customInfo (error : CustomInfoError)
  /-- An import string names a method by a numeral that has too many digits. -/
  | importToken (error : Text.LongNumeral)
  /-- A constant cannot be converted. -/
  | constant (error : ConstantError)
  /-- A span is out of order. -/
  | span (error : SpanError)
  /-- The decoder of portable metadata failed. -/
  | portable (message : String)
deriving DecidableEq, Repr

/-- The wording of an error. -/
def QueryError.message : QueryError → String
  | .customInfo error => error.message
  | .importToken error => error.message
  | .constant error => error.message
  | .span error => error.message
  | .portable message => message

/-- A question about a method. -/
structure MethodQuery where
  /-- The token of the method. -/
  token : Int
  /-- The version of the method. -/
  version : Int
  /-- The offset. -/
  offset : Int
  /-- The method is written in Visual Basic. -/
  visualBasic : Bool
deriving DecidableEq, Repr

/-- A decoder of portable metadata: it gets the metadata, the type table and the question. -/
abbrev PortableDecoder :=
  Bytes → Option TypeTable → MethodQuery → Except PortableError MethodInfo

/-- The live ranges of hoisted locals; ranges with ends out of order are left out. -/
def hoistedScopes (customInfo? : Option Bytes) (inclusive : Bool) :
    Except CustomInfoError (List HoistedScope) := do
  match ← CustomInfo.findRecord? customInfo? CustomInfo.Kind.hoistedScopes.code with
  | none => return []
  | some data =>
    let ranges ← CustomInfo.hoistedRanges data
    return ranges.filterMap fun range =>
      let length := range.stop - range.start + if inclusive then 1 else 0
      if range.start < 0 || length < 0 then none else some ⟨range.start, length⟩

/-- The part of a C# answer that depends on the language. -/
def csharpInfo (dump : Dump) (types? : Option TypeTable) (query : MethodQuery)
    (scopes : List Scope) : Except CustomInfoError MethodInfo := do
  let imports ← csharpImports dump types? query.token query.version
  let customInfo? := dump.customInfo? query.version query.token
  let hoisted ← hoistedScopes customInfo? true
  let dynamic ← dynamicMaps customInfo? scopes
  return { hoisted, groups := imports.groups, externs := imports.externs, dynamic }

/-- The part of a Visual Basic answer that depends on the language. -/
def basicInfo (dump : Dump) (query : MethodQuery) : Except Text.LongNumeral MethodInfo := do
  match ← basicImports? dump query.token query.version with
  | none => return {}
  | some imports =>
    return {
      groups := [imports.file, imports.project]
      defaultNamespace := imports.defaultNamespace }

/-- The part of the answer that depends on the language. -/
def languageInfo (dump : Dump) (types? : Option TypeTable) (query : MethodQuery)
    (scopes : List Scope) : Except QueryError MethodInfo :=
  if query.visualBasic then (basicInfo dump query).mapError .importToken
  else (csharpInfo dump types? query scopes).mapError .customInfo

/-- The constants that scopes declare, if there is a type table to decode their types. -/
def constantsIn (types? : Option TypeTable) (scopes : List Scope)
    (flags : List (Text × FlagList)) : Except ConstantError (List ConstantSymbol) :=
  match types? with
  | none => .ok []
  | some types => types.constantSymbols scopes flags

/-- The answer from custom debug info, import strings and scopes. -/
def nativeInfo (dump : Dump) (types? : Option TypeTable) (query : MethodQuery) :
    Except QueryError MethodInfo := do
  let root? := (dump.method? query.token query.version).bind (·.root?)
  let scopes := Scope.walk root?
  let containing := Scope.containing scopes query.visualBasic query.offset
  let info ← languageInfo dump types? query scopes
  let constants ← (constantsIn types? containing info.dynamic.byName).mapError .constant
  let reuseSpan ← (Scope.reuseSpan scopes query.visualBasic query.offset).mapError .span
  return { info with localNames := Scope.localNames containing, constants, reuseSpan }

/-- The answer with unusable custom debug info turned into nothing known. -/
def degrade : Except QueryError MethodInfo → Except QueryError MethodInfo
  | .error (.customInfo _) => .ok .unknown
  | result => result

/-- The answer of a decoder; malformed metadata leaves nothing known. -/
def portableInfo (decoder : PortableDecoder) (metadata : Bytes) (types? : Option TypeTable)
    (query : MethodQuery) : Except QueryError MethodInfo :=
  match decoder metadata types? query with
  | .ok info => .ok info
  | .error (.malformed _) => .ok .unknown
  | .error (.failed message) => .error (.portable message)

/-- What a dump says about a method at an offset. -/
def readMethodInfo (dump : Dump) (types? : Option TypeTable) (query : MethodQuery)
    (decoder? : Option PortableDecoder := none) : Except QueryError MethodInfo :=
  match dump.portable?, decoder? with
  | some metadata, some decoder => portableInfo decoder metadata types? query
  | _, _ => degrade (nativeInfo dump types? query)

end DebugLens
