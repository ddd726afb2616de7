import DebugLens.CustomInfo.Error

/-!
# The container of custom debug info

A blob starts with a global header of four bytes, of which only the version matters, and goes on
with records: version, kind, an unused byte, padding, a signed size that counts the header of
eight bytes, and the body. Only edit-and-continue records are padded; their padding is cut off
the end of the body. A scan yields the records in front of the first fault, and fewer than eight
bytes at the end are ignored.
-/
namespace DebugLens.CustomInfo

/-- The record kinds that have a meaning here. -/
inductive Kind where
  /-- Sizes of the import groups. -/
  | usingGroups
  /-- The imports are those of another method. -/
  | forward
  /-- The extern aliases are those of another method. -/
  | forwardToModule
  /-- Live ranges of hoisted locals. -/
  | hoistedScopes
  /-- The name of a state machine type. -/
  | forwardIterator
  /-- Dynamic flags of locals and constants. -/
  | dynamicLocals
  /-- The slots of an edit-and-continue session. -/
  | localSlotMap
  /-- The lambdas of an edit-and-continue session. -/
  | lambdaMap
  /-- The names of tuple elements. -/
  | tupleElementNames
deriving DecidableEq, Repr

/-- The number of a kind. -/
def Kind.code : Kind → Nat
  | .usingGroups => 0
  | .forward => 1
  | .forwardToModule => 2
  | .hoistedScopes => 3
  | .forwardIterator => 4
  | .dynamicLocals => 5
  | .localSlotMap => 6
  | .lambdaMap => 7
  | .tupleElementNames => 8

/-- Records of this kind are padded. -/
def isPadded (kind : Nat) : Bool :=
  kind = Kind.localSlotMap.code || kind = Kind.lambdaMap.code

/-- A record of a container. -/
structure Record where
  /-- The number of its kind. -/
  kind : Nat
  /-- Its own version. -/
  version : Nat
  /-- The body without padding. -/
  data : Bytes
deriving DecidableEq, Repr

/-- The records of a blob up to its end or its first fault. -/
structure Scan where
  /-- The records in order. -/
  records : List Record
  /-- The fault that ended the scan. -/
  fault? : Option CustomInfoError
deriving DecidableEq, Repr

/-- The version of the container format. -/
def containerVersion : UInt8 := 4

/-- The size of a record header. -/
def recordHeaderSize : Nat := 8

/-- The largest padding. -/
def greatestPadding : Nat := 3

/-- The lengths of a record's body and of the padding at its end, given the fields of the header
and the number of bytes after it. -/
def bodyExtent (kind padding : Nat) (size : Int) (available : Nat) :
    Except CustomInfoError (Nat × Nat) :=
  if size < recordHeaderSize then .error (.recordSize size)
  else if isPadded kind && padding > greatestPadding then .error (.alignment padding)
  else
    let length := (size - recordHeaderSize).toNat
    let padding := if isPadded kind then padding else 0
    if length > available || padding > length then .error (.overrun kind)
    else .ok (length, padding)

/-- Scan the records at the front of a byte string. -/
def scanRecords : Bytes → Scan
  | version :: kind :: _ :: padding :: a :: b :: c :: d :: rest =>
    match bodyExtent kind.toNat padding.toNat (Bytes.int32 a b c d) rest.length with
    | .error fault => ⟨[], some fault⟩
    | .ok (length, padding) =>
      let record : Record := ⟨kind.toNat, version.toNat, rest.take (length - padding)⟩
      let scan := scanRecords (rest.drop length)
      ⟨record :: scan.records, scan.fault?⟩
  | _ => ⟨[], none⟩
termination_by bytes => bytes.length
decreasing_by simp only [List.length_cons, List.length_drop]; omega

/-- Scan a blob. A blob of another version has no records. -/
def scan : Bytes → Scan
  | version :: _ :: _ :: _ :: rest =>
    if version = containerVersion then scanRecords rest else ⟨[], none⟩
  | _ => ⟨[], some .shortHeader⟩

/-- The body of the first record of a kind. A fault counts only if it comes first. -/
def Scan.first? (scan : Scan) (kind : Int) : Except CustomInfoError (Option Bytes) :=
  match scan.records.find? fun record => (record.kind : Int) = kind, scan.fault? with
  | some record, _ => .ok (some record.data)
  | none, some fault => .error fault
  | none, none => .ok none

/-- The body of the first record of a kind in the custom debug info of a method, which may be
missing or empty. -/
def findRecord? (blob? : Option Bytes) (kind : Int) : Except CustomInfoError (Option Bytes) :=
  match blob? with
  | none => .ok none
  | some [] => .ok none
  | some blob => (scan blob).first? kind

end DebugLens.CustomInfo
