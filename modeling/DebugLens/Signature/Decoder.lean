import DebugLens.Signature.Cursor
import DebugLens.Signature.TypeSymbol

/-!
# Decoding types

A type is a primitive code, a string or object code, a class or value type with a handle, or an
array code with the type of the elements; custom modifiers, each with a handle, may precede it.
A local may in addition be pinned and passed by reference. Handles are looked up in a table of
types; one that is not there gives a type that could not be found.

Array types may be nested to any depth. That a machine runs out of stack on types that are nested
too deeply, at a depth that depends on where the decoder is called from, is not covered here.
-/
namespace DebugLens.Signature

/-- Type symbols by token. -/
abbrev TokenTable := Int → Option TypeSymbol

/-- The codes of the primitive types, with their names. -/
def primitives : List (UInt8 × Text × SpecialType) :=
  [(0x02, "System.Boolean", .boolean), (0x03, "System.Char", .character),
    (0x04, "System.SByte", .int8), (0x05, "System.Byte", .uint8),
    (0x06, "System.Int16", .int16), (0x07, "System.UInt16", .uint16),
    (0x08, "System.Int32", .int32), (0x09, "System.UInt32", .uint32),
    (0x0A, "System.Int64", .int64), (0x0B, "System.UInt64", .uint64),
    (0x0C, "System.Single", .single), (0x0D, "System.Double", .double),
    (0x18, "System.IntPtr", .intPtr), (0x19, "System.UIntPtr", .uintPtr)]

/-- The codes of types that have no symbol here: void, pointers, type parameters, general
arrays, generic instances, typed references and function pointers. -/
def unsupportedCodes : List UInt8 := [0x01, 0x0F, 0x13, 0x14, 0x15, 0x16, 0x1B, 0x1E]

/-- The code of the string type. -/
def stringCode : UInt8 := 0x0E

/-- The code of the object type. -/
def objectCode : UInt8 := 0x1C

/-- The code in front of an element type. -/
def arrayCode : UInt8 := 0x1D

/-- The codes in front of a handle. -/
def isHandleCode (code : UInt8) : Bool := code = 0x11 || code = 0x12

/-- The codes of custom modifiers. -/
def isModifier (code : UInt8) : Bool := code = 0x1F || code = 0x20

/-- The mark of a pinned local. -/
def pinnedCode : UInt8 := 0x45

/-- The mark of a local that is passed by reference. -/
def byReferenceCode : UInt8 := 0x10

/-- The first byte of a signature of locals. -/
def localsHeader : UInt8 := 0x07

/-- The bytes after any custom modifiers. -/
def skipModifiers : Bytes → Except SignatureFailure Bytes
  | [] => .ok []
  | code :: rest =>
    if isModifier code then
      match _handle : readHandle rest with
      | .error failure => .error failure
      | .ok (_, after) => skipModifiers after
    else .ok (code :: rest)
termination_by bytes => bytes.length
decreasing_by
  have shorter := readHandle_length _handle
  simp only [List.length_cons]; omega

/-- Modifiers only make the rest shorter. -/
theorem skipModifiers_length {bytes rest : Bytes} (skipped : skipModifiers bytes = .ok rest) :
    rest.length ≤ bytes.length := by
  fun_induction skipModifiers bytes with
  | case1 =>
    simp only [Except.ok.injEq] at skipped
    exact Nat.le_of_eq (congrArg List.length skipped).symm
  | case2 => cases skipped
  | case3 code tail _ _ after handle hypothesis =>
    have shorter := hypothesis skipped
    have shorterHandle := readHandle_length handle
    simp only [List.length_cons]; omega
  | case4 =>
    simp only [Except.ok.injEq] at skipped
    exact Nat.le_of_eq (congrArg List.length skipped).symm

/-- The symbol of a token; one that is not in the table could not be found. -/
def symbolOf (table : TokenTable) (token : Nat) : TypeSymbol :=
  (table token).getD (.missing ("<unresolved " ++ Text.tokenText token ++ ">"))

/-- A type whose code takes no further type. -/
def decodeSimple (table : TokenTable) (code : UInt8) (rest : Bytes) :
    Except SignatureFailure (TypeSymbol × Bytes) :=
  match primitives.lookup code with
  | some (name, special) => .ok ({ name, special }, rest)
  | none =>
    if code = stringCode then .ok (.string, rest)
    else if code = objectCode then .ok (.object, rest)
    else if isHandleCode code then do
      let (token, rest) ← readHandle rest
      return (symbolOf table token, rest)
    else if unsupportedCodes.contains code then .error ⟨.unsupportedElement code, rest⟩
    else .error ⟨.invalidElement code, rest⟩

/-- A type at the front of the bytes. -/
def decodeType (table : TokenTable) (bytes : Bytes) :
    Except SignatureFailure (TypeSymbol × Bytes) :=
  match _skipped : skipModifiers bytes with
  | .error failure => .error failure
  | .ok [] => .error ⟨.truncated, []⟩
  | .ok (code :: rest) =>
    if code = arrayCode then
      match decodeType table rest with
      | .error failure => .error failure
      | .ok (element, rest) => .ok (.arrayOf element, rest)
    else decodeSimple table code rest
termination_by bytes.length
decreasing_by
  have shorter := skipModifiers_length _skipped
  simp only [List.length_cons] at shorter; omega

/-- The type of a local, and how the local is kept. -/
structure LocalType where
  /-- The type. -/
  type : TypeSymbol
  /-- The local is pinned in memory. -/
  pinned : Bool := false
  /-- The local is a reference to a variable. -/
  byReference : Bool := false
deriving Repr

/-- The bytes after modifiers and an optional mark, and whether the mark was there. At least one
byte has to follow the modifiers. -/
def takeMark (mark : UInt8) (bytes : Bytes) : Except SignatureFailure (Bool × Bytes) := do
  let rest ← skipModifiers bytes
  let first ← peekByte rest
  return if first = mark then (true, rest.drop 1) else (false, rest)

/-- A local at the front of the bytes. -/
def decodeLocal (table : TokenTable) (bytes : Bytes) :
    Except SignatureFailure (LocalType × Bytes) := do
  let (pinned, rest) ← takeMark pinnedCode bytes
  let (byReference, rest) ← takeMark byReferenceCode rest
  let (type, rest) ← decodeType table rest
  return ({ type, pinned, byReference }, rest)

/-- So many locals at the front of the bytes. -/
def decodeLocals (table : TokenTable) : Nat → Bytes →
    Except SignatureFailure (List LocalType × Bytes)
  | 0, bytes => .ok ([], bytes)
  | count + 1, bytes => do
    let (first, rest) ← decodeLocal table bytes
    let (others, rest) ← decodeLocals table count rest
    return (first :: others, rest)

/-- The locals of a signature of locals. Bytes after the last one are ignored. -/
def decodeLocalSignature (table : TokenTable) (bytes : Bytes) :
    Except SignatureFailure (List LocalType) := do
  let (header, rest) ← readByte bytes
  if header ≠ localsHeader then throw ⟨.header header, rest⟩
  let (count, rest) ← readCompressed rest
  let (locals, _) ← decodeLocals table count rest
  return locals

/-- The type of a signature that holds one local and nothing else. -/
def decodeLocalType (table : TokenTable) (bytes : Bytes) :
    Except SignatureFailure TypeSymbol := do
  let (decoded, rest) ← decodeLocal table bytes
  if rest.isEmpty then return decoded.type else throw ⟨.trailing rest.length, rest⟩

end DebugLens.Signature
