import DebugLens.Assoc
import DebugLens.CustomInfo.Bodies
import DebugLens.CustomInfo.Container
import DebugLens.Number.Power
import DebugLens.Scope.Basic

/-!
# Dynamic flags of locals and constants

Dynamic flags are stored under a slot and a name, but constants are stored under slot zero too.
A bucket of slot zero belongs to a constant when its name is that of exactly one constant and
not of the first local in slot zero; when both share the name, or two constants do, it cannot be
attributed and is dropped.
-/
namespace DebugLens

/-- The flags of one local or constant, first flag first. -/
abbrev FlagList := List Bool

/-- What a name stands for in slot zero. -/
inductive NameKind where
  /-- More than one thing. -/
  | duplicate
  /-- The first local in slot zero. -/
  | localVariable
  /-- One constant. -/
  | constant
deriving DecidableEq, Repr

/-- The name that output uses for a kind. -/
def NameKind.label : NameKind → String
  | .duplicate => "DUPLICATE"
  | .localVariable => "VARIABLE"
  | .constant => "CONSTANT"

/-- The slot that stands for a constant. -/
def constantSlot : Int := -1

namespace CustomInfo

/-- The flags of a bucket as a list. -/
def DynamicBucket.flagList (bucket : DynamicBucket) : FlagList :=
  (List.range bucket.flagCount.toNat).map fun index => bucket.flags / twoTo index % 2 = 1

end CustomInfo

/-- The first local in slot zero, in the order of the scopes. -/
def firstLocal? (scopes : List Scope) : Option LocalDeclaration :=
  (scopes.flatMap Scope.locals).find? fun declaration => declaration.slot = 0

/-- The kinds of names after one more constant. -/
def classifyConstant (kinds : List (Text × NameKind)) (declaration : ConstantDeclaration) :
    List (Text × NameKind) :=
  let kind := if (kinds.lookup declaration.name).isSome then .duplicate else .constant
  assign declaration.name kind kinds

/-- What each name stands for in slot zero. -/
def nameKinds (scopes : List Scope) : List (Text × NameKind) :=
  let start := (firstLocal? scopes).toList.map fun declaration =>
    (declaration.name, NameKind.localVariable)
  (scopes.flatMap Scope.constants).foldl classifyConstant start

/-- A bucket attributed to a slot or to a constant, unless it is ambiguous. -/
def attribute? (kinds : List (Text × NameKind)) (bucket : CustomInfo.DynamicBucket) :
    Option CustomInfo.DynamicBucket :=
  if bucket.slot = 0 then
    match kinds.lookup bucket.name with
    | some .duplicate => none
    | some .constant => some { bucket with slot := constantSlot }
    | some .localVariable => some bucket
    | none => some bucket
  else some bucket

/-- The buckets that can be attributed. -/
def attributeAll (scopes : List Scope) (buckets : List CustomInfo.DynamicBucket) :
    List CustomInfo.DynamicBucket :=
  buckets.filterMap (attribute? (nameKinds scopes))

/-- Dynamic flags by slot and by name. -/
structure DynamicMaps where
  /-- The flags of locals by slot. -/
  bySlot : List (Int × FlagList) := []
  /-- The flags of constants by name. -/
  byName : List (Text × FlagList) := []
deriving DecidableEq, Repr

/-- The maps after one more bucket; a later bucket replaces an earlier one. -/
def DynamicMaps.add (maps : DynamicMaps) (bucket : CustomInfo.DynamicBucket) : DynamicMaps :=
  if bucket.slot < 0 then
    { maps with byName := assign bucket.name bucket.flagList maps.byName }
  else { maps with bySlot := assign bucket.slot bucket.flagList maps.bySlot }

/-- The maps of attributed buckets. -/
def DynamicMaps.ofBuckets (buckets : List CustomInfo.DynamicBucket) : DynamicMaps :=
  buckets.foldl DynamicMaps.add {}

/-- The dynamic flags in the custom debug info of a method with the given scopes. -/
def dynamicMaps (customInfo? : Option Bytes) (scopes : List Scope) :
    Except CustomInfoError DynamicMaps := do
  match ← CustomInfo.findRecord? customInfo? CustomInfo.Kind.dynamicLocals.code with
  | none => return {}
  | some data =>
    let buckets ← CustomInfo.dynamicBuckets data
    return .ofBuckets (attributeAll scopes buckets)

end DebugLens
