import DebugLens.CustomInfo.Error
import DebugLens.Text.Utf16

/-!
# Record bodies

A using body holds a count of groups and their sizes. The forward bodies hold a token. Hoisted
scopes and dynamic locals come as a count and entries of fixed size; entries that are not
completely there are ignored, and so is a dynamic bucket whose flag count or slot is out of
range.
-/
namespace DebugLens.CustomInfo

/-- The integer at the front of a body. -/
def leadingInt (data : Bytes) : Except CustomInfoError Int :=
  match Bytes.readInt32? data with
  | some value => .ok value
  | none => .error .shortInteger

/-- The sizes of the import groups. -/
def groupSizes (data : Bytes) : Except CustomInfoError (List Nat) :=
  match Bytes.words16 data with
  | [] => .error .shortUsing
  | count :: sizes =>
    if sizes.length < count then .error .truncatedUsing else .ok (sizes.take count)

/-- The method that a forward record names. -/
def forwardTarget (data : Bytes) : Except CustomInfoError Int := leadingInt data

/-- The name of the state machine type that a method was turned into. -/
def stateMachineName (data : Bytes) : String := Text.readUtf16 data

/-- The live range of a hoisted local as it is stored. -/
structure HoistedRange where
  /-- The first offset. -/
  start : Int
  /-- The last offset, or the one after it. -/
  stop : Int
deriving DecidableEq, Repr

/-- The two integers of a range. -/
def hoistedRange? : Bytes → Option HoistedRange
  | a :: b :: c :: d :: rest =>
    (Bytes.readInt32? rest).map fun stop => ⟨Bytes.int32 a b c d, stop⟩
  | _ => none

/-- The live ranges of the hoisted locals. -/
def hoistedRanges (data : Bytes) : Except CustomInfoError (List HoistedRange) := do
  let count ← leadingInt data
  if count < 0 then throw (.hoistedCount count)
  return ((Bytes.pieces 8 (data.drop 4)).take count.toNat).filterMap hoistedRange?

/-- The dynamic flags of a local or constant. -/
structure DynamicBucket where
  /-- How many flags there are. -/
  flagCount : Int
  /-- The flags as bits, the first one lowest. -/
  flags : Int
  /-- The slot; constants are stored under slot zero. -/
  slot : Int
  /-- The name. -/
  name : Text
deriving DecidableEq, Repr

/-- The number of flag bytes of a bucket. -/
def flagBytes : Nat := 64

/-- The size of a bucket: flag bytes, two integers and the name. -/
def bucketSize : Nat := flagBytes + 4 + 4 + 128

/-- Bytes as bits, a bit being set where the byte is not zero. -/
def bitsOf : Bytes → Nat
  | [] => 0
  | byte :: bytes => (if byte = 0 then 0 else 1) + 2 * bitsOf bytes

/-- The bucket in a piece of a body, unless its flag count or slot is out of range. -/
def bucket? (piece : Bytes) : Option DynamicBucket := do
  let flagCount ← Bytes.readInt32? (piece.drop flagBytes)
  let slot ← Bytes.readInt32? (piece.drop (flagBytes + 4))
  if flagCount < 0 || flagCount > flagBytes || slot < 0 then none
  else
    some {
      flagCount, slot
      flags := bitsOf (piece.take flagBytes)
      name := .ofString (Text.readUtf16 (piece.drop (flagBytes + 8))) }

/-- The dynamic flags of locals and constants. -/
def dynamicBuckets (data : Bytes) : Except CustomInfoError (List DynamicBucket) := do
  let count ← leadingInt data
  if count < 0 then throw (.dynamicCount count)
  return ((Bytes.pieces bucketSize (data.drop 4)).take count.toNat).filterMap bucket?

end DebugLens.CustomInfo
