import DebugLens.Text.Hex

/-!
# Faults of signatures

A signature is malformed when its bytes do not form one, and unsupported when they form one that
no type symbol can stand for. A failure leaves the bytes that were not read.
-/
namespace DebugLens

/-- Why a signature has no meaning. -/
inductive SignatureError where
  /-- The bytes end too early. -/
  | truncated
  /-- A compressed integer starts with an impossible byte. -/
  | leadByte (byte : UInt8)
  /-- A handle refers to no table. -/
  | handleTag (tag : Nat)
  /-- A byte starts no type. -/
  | invalidElement (code : UInt8)
  /-- A type has no symbol here. -/
  | unsupportedElement (code : UInt8)
  /-- The signature is not one of locals. -/
  | header (byte : UInt8)
  /-- Bytes follow the type. -/
  | trailing (count : Nat)
deriving DecidableEq, Repr

/-- The signature is well formed, but has no symbol here. -/
def SignatureError.isUnsupported : SignatureError → Bool
  | .unsupportedElement _ => true
  | _ => false

/-- A byte as it is shown. -/
def byteText (byte : UInt8) : String := "0x" ++ Text.hexUpper 2 byte.toNat

/-- The wording of a fault. -/
def SignatureError.message : SignatureError → String
  | .truncated => "signature truncated"
  | .leadByte byte => "invalid compressed integer lead byte " ++ byteText byte
  | .handleTag tag => "invalid TypeDefOrRef tag " ++ toString tag
  | .invalidElement code => "invalid element type " ++ byteText code
  | .unsupportedElement code => "unsupported element type " ++ byteText code
  | .header byte => "expected local signature header, got " ++ byteText byte
  | .trailing count => toString count ++ " trailing bytes after local type"

/-- A fault and the bytes that were left when it was met. -/
structure SignatureFailure where
  /-- The fault. -/
  error : SignatureError
  /-- The bytes that were not read. -/
  rest : Bytes
deriving DecidableEq, Repr

end DebugLens
