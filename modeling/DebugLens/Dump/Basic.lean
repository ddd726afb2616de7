import DebugLens.Import.Grouping
import DebugLens.Scope.Basic
import DebugLens.Signature.TypeTable

/-!
# Symbol dumps

A dump holds the methods of a module by token and version, its type table, and possibly portable
metadata. Reading a method gives its tree of scopes, its import strings, its custom debug info
and the signature of its locals, each of which may be missing.
-/
namespace DebugLens

/-- A method of a module. -/
structure Method where
  /-- The token. -/
  token : Int
  /-- The version, counted up when the method is edited. -/
  version : Int
  /-- The outermost scope. -/
  root? : Option Scope := none
  /-- The import strings. -/
  importStrings? : Option (List Text) := none
  /-- The custom debug info. -/
  customInfo? : Option Bytes := none
  /-- The signature of the locals. -/
  localSignature? : Option Bytes := none
deriving Repr

/-- The symbols of a module. -/
structure Dump where
  /-- The methods, no two with the same token and version. -/
  methods : List Method := []
  /-- The portable metadata. -/
  portable? : Option Bytes := none
  /-- The entries of the type table, no two with the same token. -/
  types : List (Int × TypeEntry) := []
deriving Repr

namespace Dump

/-- Add a method; one with the same token and version is replaced where it stands. -/
def putMethod (method : Method) : List Method → List Method
  | [] => [method]
  | other :: methods =>
    if other.token = method.token ∧ other.version = method.version then method :: methods
    else other :: putMethod method methods

/-- The method with a token and a version. -/
def method? (dump : Dump) (token version : Int) : Option Method :=
  dump.methods.find? fun method => method.token = token && method.version = version

/-- The order of tokens, then of versions. -/
def precedes (left right : Method) : Bool :=
  left.token < right.token || (left.token = right.token && left.version ≤ right.version)

/-- The methods by token and version. -/
def sortedMethods (dump : Dump) : List Method := dump.methods.mergeSort precedes

/-- The custom debug info of a method. -/
def customInfo? (dump : Dump) (version token : Int) : Option Bytes :=
  (dump.method? token version).bind (·.customInfo?)

/-- The import strings of a method. -/
def importStrings? (dump : Dump) (version token : Int) : Option (List Text) :=
  (dump.method? token version).bind (·.importStrings?)

/-- The methods of one version as a source of custom debug info and import strings. -/
def source (dump : Dump) (version : Int) : Import.MethodSource where
  customInfo? := dump.customInfo? version
  importStrings? := dump.importStrings? version

/-- The type table of the dump. -/
def typeTable (dump : Dump) : Except DumpError TypeTable := TypeTable.ofEntries dump.types

end Dump

end DebugLens
