import DebugLens.Signature.Error

/-!
# Integers and handles in signatures

Compressed integers take one, two or four bytes, told apart by the leading bits, most
significant byte first. A handle is a compressed integer whose two lowest bits select a table
and whose other bits are the row; as a token it has the table in its highest byte.
-/
namespace DebugLens.Signature

/-- The first byte. -/
def readByte : Bytes → Except SignatureFailure (UInt8 × Bytes)
  | [] => .error ⟨.truncated, []⟩
  | byte :: rest => .ok (byte, rest)

/-- The first byte, which is not consumed. -/
def peekByte : Bytes → Except SignatureFailure UInt8
  | [] => .error ⟨.truncated, []⟩
  | byte :: _ => .ok byte

/-- A number continued by so many further bytes. -/
def readMore : Nat → Nat → Bytes → Except SignatureFailure (Nat × Bytes)
  | 0, value, bytes => .ok (value, bytes)
  | _ + 1, _, [] => .error ⟨.truncated, []⟩
  | count + 1, value, byte :: rest => readMore count (value * 256 + byte.toNat) rest

/-- A compressed integer. -/
def readCompressed : Bytes → Except SignatureFailure (Nat × Bytes)
  | [] => .error ⟨.truncated, []⟩
  | first :: rest =>
    if first < 0x80 then .ok (first.toNat, rest)
    else if first < 0xC0 then readMore 1 (first.toNat - 0x80) rest
    else if first < 0xE0 then readMore 3 (first.toNat - 0xC0) rest
    else .error ⟨.leadByte first, rest⟩

/-- The tables that a handle can refer to, by its tag. -/
def handleTables : List Nat := [0x02, 0x01, 0x1B]

/-- The token of a row of a table. -/
def tokenOf (table row : Nat) : Nat := table * 0x1000000 ||| row

/-- A handle, as the token of a row. -/
def readHandle (bytes : Bytes) : Except SignatureFailure (Nat × Bytes) :=
  match readCompressed bytes with
  | .error failure => .error failure
  | .ok (coded, rest) =>
    match handleTables[coded % 4]? with
    | some table => .ok (tokenOf table (coded / 4), rest)
    | none => .error ⟨.handleTag (coded % 4), rest⟩

/-- Further bytes only make the rest shorter. -/
theorem readMore_length {count value : Nat} {bytes rest : Bytes} {result : Nat}
    (read : readMore count value bytes = .ok (result, rest)) : rest.length ≤ bytes.length := by
  induction count generalizing value bytes with
  | zero =>
    simp only [readMore, Except.ok.injEq, Prod.mk.injEq] at read
    exact Nat.le_of_eq (congrArg List.length read.2).symm
  | succ count hypothesis =>
    cases bytes with
    | nil => simp [readMore] at read
    | cons byte bytes =>
      have shorter := hypothesis (by simpa [readMore] using read)
      simp only [List.length_cons]; omega

/-- A compressed integer takes at least one byte. -/
theorem readCompressed_length {bytes rest : Bytes} {value : Nat}
    (read : readCompressed bytes = .ok (value, rest)) : rest.length < bytes.length := by
  cases bytes with
  | nil => simp [readCompressed] at read
  | cons first tail =>
    simp only [readCompressed] at read
    split at read
    · simp only [Except.ok.injEq, Prod.mk.injEq] at read
      rw [← read.2]; simp
    · split at read
      · have shorter := readMore_length read
        simp only [List.length_cons]; omega
      · split at read
        · have shorter := readMore_length read
          simp only [List.length_cons]; omega
        · cases read

/-- A handle takes at least one byte. -/
theorem readHandle_length {bytes rest : Bytes} {token : Nat}
    (read : readHandle bytes = .ok (token, rest)) : rest.length < bytes.length := by
  unfold readHandle at read
  split at read
  · cases read
  · rename_i coded after readCoded
    split at read
    · simp only [Except.ok.injEq, Prod.mk.injEq] at read
      rw [← read.2]; exact readCompressed_length readCoded
    · cases read

end DebugLens.Signature
