import DebugLens.Proofs.Signature.Locals

/-!
# Signatures end where they say

A reader is settled if further bytes behind its input make no difference to what it reads, unless
the input ends too early for it. All readers of signatures are chains of settled ones, so a
signature that holds one local tells by itself where it ends: cut short anywhere it is truncated,
and bytes behind it are left over, whatever they are.
-/
namespace DebugLens.Signature

variable {α β : Type}

/-! ## Settled readers -/

/-- A reader takes a value off the front of the bytes. -/
abbrev Reader (α : Type) := Bytes → Except SignatureFailure (α × Bytes)

/-- One reader and, behind what it takes, a second one that depends on its value. -/
def andThen (first : Reader α) (next : α → Reader β) : Reader β :=
  fun bytes => first bytes >>= fun (value, rest) => next value rest

/-- What a reader gives, with further bytes behind those that it leaves. -/
def lengthen (more : Bytes) :
    Except SignatureFailure (α × Bytes) → Except SignatureFailure (α × Bytes)
  | .ok (value, rest) => .ok (value, rest ++ more)
  | .error failure => .error ⟨failure.error, failure.rest ++ more⟩

/-- Unless the bytes end too early for the reader, further bytes behind them are only left over. -/
def SettledAt (read : Reader α) (bytes : Bytes) : Prop :=
  ∀ more, read bytes = .error ⟨.truncated, []⟩ ∨ read (bytes ++ more) = lengthen more (read bytes)

/-- Unless they end too early, further bytes behind any bytes are only left over. -/
def Settled (read : Reader α) : Prop := ∀ bytes, SettledAt read bytes

/-- Taking nothing is settled. -/
theorem settled_ok (value : α) : Settled fun bytes => .ok (value, bytes) :=
  fun _ _ => .inr rfl

/-- Refusing, whatever the bytes are, is settled. -/
theorem settled_error (error : SignatureError) :
    Settled fun bytes => (.error ⟨error, bytes⟩ : Except SignatureFailure (α × Bytes)) :=
  fun _ _ => .inr rfl

/-- A chain is settled if the first reader is, and the second one where the first one ends. -/
theorem SettledAt.andThen {first : Reader α} {next : α → Reader β} {bytes : Bytes}
    (settled : SettledAt first bytes)
    (each : ∀ value rest, first bytes = .ok (value, rest) → SettledAt (next value) rest) :
    SettledAt (andThen first next) bytes := by
  intro more
  rcases settled more with truncated | same
  · left
    rw [Signature.andThen, truncated]
    rfl
  · cases outcome : first bytes with
    | error failure =>
      right
      rw [outcome] at same
      rw [Signature.andThen, Signature.andThen, same, outcome]
      rfl
    | ok read =>
      have settledNext := each read.1 read.2 outcome more
      rw [outcome] at same
      rw [Signature.andThen, Signature.andThen, same, outcome]
      exact settledNext

/-- A chain of settled readers is settled. -/
theorem Settled.andThen {first : Reader α} {next : α → Reader β} (settled : Settled first)
    (each : ∀ value, Settled (next value)) : Settled (andThen first next) :=
  fun bytes => (settled bytes).andThen fun value rest _ => each value rest

/-- A recursive reader is settled if it is on any bytes as long as it is on fewer. -/
theorem settled_of_fewer {read : Reader α}
    (step : ∀ bytes, (∀ fewer : Bytes, fewer.length < bytes.length → SettledAt read fewer) →
      SettledAt read bytes) : Settled read := by
  intro bytes
  induction length : bytes.length using Nat.strongRecOn generalizing bytes with
  | ind size hypothesis =>
    apply step
    intro fewer less
    rw [length] at less
    exact hypothesis fewer.length less fewer rfl

/-! ## Integers, handles and modifiers -/

/-- A byte that is read is settled: what stands behind it does not matter. -/
theorem readByte_settled : Settled readByte := by
  intro bytes more
  cases bytes with
  | nil => exact .inl rfl
  | cons byte rest => exact .inr rfl

/-- Further bytes of an integer are settled once they are read. -/
theorem readMore_settled (count value : Nat) : Settled (readMore count value) := by
  induction count generalizing value with
  | zero => exact settled_ok value
  | succ count hypothesis =>
    intro bytes more
    cases bytes with
    | nil => exact .inl rfl
    | cons byte rest => exact hypothesis (value * 256 + byte.toNat) rest more

/-- What follows the first byte of an integer. -/
def readBehindLead (first : UInt8) : Reader Nat :=
  if first < 0x80 then fun bytes => .ok (first.toNat, bytes)
  else if first < 0xC0 then readMore 1 (first.toNat - 0x80)
  else if first < 0xE0 then readMore 3 (first.toNat - 0xC0)
  else fun bytes => .error ⟨.leadByte first, bytes⟩

/-- The first byte of an integer tells how many further ones belong to it. -/
theorem readCompressed_eq : readCompressed = andThen readByte readBehindLead := by
  funext bytes
  cases bytes with
  | nil => rfl
  | cons first rest =>
    show readCompressed (first :: rest) = readBehindLead first rest
    rw [readCompressed]
    unfold readBehindLead
    split_ifs <;> rfl

/-- The first byte of a compressed integer settles how many follow. -/
theorem readCompressed_settled : Settled readCompressed := by
  rw [readCompressed_eq]
  apply readByte_settled.andThen
  intro first
  unfold readBehindLead
  split_ifs
  · exact settled_ok first.toNat
  · exact readMore_settled 1 _
  · exact readMore_settled 3 _
  · exact settled_error _

/-- The token of a coded handle, which takes no further byte. -/
def readToken (coded : Nat) : Reader Nat := fun bytes =>
  match handleTables[coded % 4]? with
  | some table => .ok (tokenOf table (coded / 4), bytes)
  | none => .error ⟨.handleTag (coded % 4), bytes⟩

/-- A handle is a compressed integer that is a token. -/
theorem readHandle_eq : readHandle = andThen readCompressed readToken := by
  funext bytes
  rw [readHandle, andThen]
  cases readCompressed bytes <;> rfl

/-- A handle is settled, as the compressed integer that it is. -/
theorem readHandle_settled : Settled readHandle := by
  rw [readHandle_eq]
  apply readCompressed_settled.andThen
  intro coded bytes more
  right
  rw [readToken, readToken]
  cases handleTables[coded % 4]? <;> rfl

/-- The first byte that is no modifier's. -/
def readCode : Reader UInt8 := fun bytes => skipModifiers bytes >>= readByte

/-- A modifier in front is its code and a handle. -/
theorem readCode_cons (code : UInt8) (rest : Bytes) :
    readCode (code :: rest) =
      if isModifier code then andThen readHandle (fun _ => readCode) rest
      else .ok (code, rest) := by
  rw [readCode, skipModifiers]
  by_cases modifies : isModifier code = true
  · rw [if_pos modifies, if_pos modifies, andThen]
    split
    · next failed =>
      rw [failed]
      rfl
    · next found =>
      rw [found]
      rfl
  · rw [if_neg modifies, if_neg modifies]
    rfl

/-- Cut short between or within modifiers, the bytes end too early. -/
theorem readCode_settled : Settled readCode := by
  apply settled_of_fewer
  intro bytes hypothesis
  cases bytes with
  | nil =>
    have nothing : skipModifiers [] = .ok [] := skipModifiers_of_unmodified nofun
    exact fun _ => .inl (congrArg (· >>= readByte) nothing)
  | cons code rest =>
    intro more
    rw [List.cons_append, readCode_cons, readCode_cons]
    by_cases modifies : isModifier code = true
    · rw [if_pos modifies, if_pos modifies]
      apply (readHandle_settled rest).andThen
      intro _ after read
      -- The handle takes some bytes, so fewer are left for the next modifier.
      have shorter := readHandle_length read
      apply hypothesis
      rw [List.length_cons]
      omega
    · rw [if_neg modifies, if_neg modifies]
      exact .inr rfl

/-! ## Types and locals -/

/-- A type that is not made up of others is settled by its code and what belongs to it. -/
theorem decodeSimple_settled (table : TokenTable) (code : UInt8) :
    Settled (decodeSimple table code) := by
  unfold decodeSimple
  split
  · exact settled_ok _
  · split_ifs
    · exact settled_ok _
    · exact settled_ok _
    · exact readHandle_settled.andThen fun token => settled_ok _
    · exact settled_error _
    · exact settled_error _

/-- What belongs to the code of a type. -/
def decodeBehindCode (table : TokenTable) (code : UInt8) : Reader TypeSymbol :=
  if code = arrayCode then
    andThen (decodeType table) fun element rest => .ok (.arrayOf element, rest)
  else decodeSimple table code

/-- A type is its code, behind modifiers, and what belongs to the code. -/
theorem decodeType_eq (table : TokenTable) :
    decodeType table = andThen readCode (decodeBehindCode table) := by
  funext bytes
  rw [decodeType, andThen, readCode]
  split
  · next failed =>
    rw [failed]
    rfl
  · next nothing =>
    rw [nothing]
    rfl
  · next code rest found =>
    rw [found]
    show _ = decodeBehindCode table code rest
    unfold decodeBehindCode
    split_ifs
    · rw [andThen]
      cases decodeType table rest <;> rfl
    · rfl

/-- Bytes are taken off by a code. -/
theorem readCode_length {bytes rest : Bytes} {code : UInt8}
    (read : readCode bytes = .ok (code, rest)) : rest.length < bytes.length := by
  obtain ⟨left, skipped, first⟩ := bind_eq_ok_iff.mp read
  have shorter := skipModifiers_length skipped
  cases left with
  | nil => cases first
  | cons byte behind =>
    cases first
    rw [List.length_cons] at shorter
    omega

/-- Types are settled, however deep they are nested. -/
theorem decodeType_settled (table : TokenTable) : Settled (decodeType table) := by
  apply settled_of_fewer
  intro bytes hypothesis
  rw [decodeType_eq]
  apply (readCode_settled bytes).andThen
  intro code rest read
  unfold decodeBehindCode
  split_ifs
  · -- The code takes a byte, so the element type has fewer.
    have element := hypothesis rest (readCode_length read)
    exact element.andThen fun element left _ => settled_ok (TypeSymbol.arrayOf element) left
  · exact decodeSimple_settled table code rest

/-- A mark is found or not by the first byte that is no modifier's, which stays if it is none. -/
theorem takeMark_eq (mark : UInt8) :
    takeMark mark = andThen readCode fun code rest =>
      .ok (if code = mark then (true, rest) else (false, code :: rest)) := by
  funext bytes
  rw [takeMark, andThen, readCode]
  cases skipModifiers bytes with
  | error failure => rfl
  | ok left => cases left <;> rfl

/-- Whether there is a mark is settled by the next byte. -/
theorem takeMark_settled (mark : UInt8) : Settled (takeMark mark) := by
  rw [takeMark_eq]
  apply readCode_settled.andThen
  intro code bytes more
  right
  split_ifs <;> rfl

/-- A local is two marks and a type. -/
theorem decodeLocal_eq (table : TokenTable) :
    decodeLocal table = andThen (takeMark pinnedCode) fun pinned =>
      andThen (takeMark byReferenceCode) fun byReference =>
        andThen (decodeType table) fun type rest => .ok ({ type, pinned, byReference }, rest) :=
  rfl

/-- Locals are settled. -/
theorem decodeLocal_settled (table : TokenTable) : Settled (decodeLocal table) := by
  rw [decodeLocal_eq]
  apply (takeMark_settled pinnedCode).andThen
  intro pinned
  apply (takeMark_settled byReferenceCode).andThen
  intro byReference
  apply (decodeType_settled table).andThen
  intro type
  exact settled_ok _

/-! ## Signatures that hold one local -/

/-- The bytes are refused as malformed, and not as well formed without a symbol. -/
structure Malformed (table : TokenTable) (bytes : Bytes) (error : SignatureError) (rest : Bytes) :
    Prop where
  /-- The bytes are refused. -/
  refused : decodeLocalType table bytes = .error ⟨error, rest⟩
  /-- The fault is one of the format. -/
  supported : error.isUnsupported = false

/-- A signature is accepted exactly if a local is decoded and nothing is left. -/
theorem decodeLocalType_eq_ok_iff {table : TokenTable} {bytes : Bytes} {type : TypeSymbol} :
    decodeLocalType table bytes = .ok type ↔
      ∃ decoded, decodeLocal table bytes = .ok (decoded, []) ∧ decoded.type = type := by
  rw [decodeLocalType, bind_eq_ok_iff]
  constructor
  · rintro ⟨⟨decoded, rest⟩, read, last⟩
    cases rest with
    | nil => exact ⟨decoded, read, Except.ok.inj last⟩
    | cons byte rest => cases last
  · rintro ⟨decoded, read, rfl⟩
    exact ⟨_, read, rfl⟩

/-- Further bytes behind a signature that is accepted are left over. -/
theorem decodeLocal_append {table : TokenTable} {signature : Bytes} {decoded : LocalType}
    (read : decodeLocal table signature = .ok (decoded, [])) (more : Bytes) :
    decodeLocal table (signature ++ more) = .ok (decoded, more) := by
  have settled := decodeLocal_settled table signature more
  rw [read] at settled
  exact settled.resolve_left nofun

/-- Cut short, a signature that is accepted ends too early. -/
theorem decodeLocal_cut {table : TokenTable} {front behind : Bytes} {decoded : LocalType}
    (read : decodeLocal table (front ++ behind) = .ok (decoded, [])) (nonempty : behind ≠ []) :
    decodeLocal table front = .error ⟨.truncated, []⟩ := by
  rcases decodeLocal_settled table front behind with truncated | same
  · exact truncated
  · rw [read] at same
    cases outcome : decodeLocal table front with
    | error failure =>
      rw [outcome] at same
      cases same
    | ok taken =>
      rw [outcome] at same
      obtain ⟨-, nothing⟩ := Prod.mk.inj (Except.ok.inj same)
      exact absurd (List.append_eq_nil_iff.mp nothing.symm).2 nonempty

/-- No signature that is accepted continues another one: cut short anywhere, it is refused because
it ends too early, and with further bytes behind it because they are left over. Read where bytes
may follow, it gives the same local whatever they are, and leaves just them. -/
theorem signature_selfDelimiting (table : TokenTable) (signature : Bytes) (type : TypeSymbol)
    (accepted : decodeLocalType table signature = .ok type) :
    (∀ front behind, signature = front ++ behind → behind ≠ [] →
      Malformed table front .truncated []) ∧
    (∀ more, more ≠ [] →
      Malformed table (signature ++ more) (.trailing more.length) more) ∧
    ∃ decoded, decoded.type = type ∧
      ∀ more, decodeLocal table (signature ++ more) = .ok (decoded, more) := by
  obtain ⟨decoded, read, typed⟩ := decodeLocalType_eq_ok_iff.mp accepted
  refine ⟨?_, ?_, decoded, typed, decodeLocal_append read⟩
  · intro front behind joined nonempty
    rw [joined] at read
    refine ⟨?_, rfl⟩
    rw [decodeLocalType, decodeLocal_cut read nonempty]
    rfl
  · intro more nonempty
    refine ⟨?_, rfl⟩
    rw [decodeLocalType, decodeLocal_append read more]
    cases more with
    | nil => contradiction
    | cons byte rest => rfl

/-- A pinned array, behind a modifier with a handle of two bytes. -/
def modifiedArray : Bytes := [0x20, 0x81, 0x06, 0x45, 0x1D, 0x12, 0x0D]

/-- The array is refused both cut short within the handle of the modifier and with one more byte. -/
theorem signature_selfDelimiting_modifiedArray :
    let table : TokenTable := fun token => if token = 0x01000003 then some .object else none
    decodeLocalType table modifiedArray = .ok (.arrayOf .object) ∧
      Malformed table [0x20, 0x81] .truncated [] ∧
      Malformed table (modifiedArray ++ [0x08]) (.trailing 1) [0x08] := by
  intro table
  let encoding : LocalEncoding := {
    first := [⟨0x20, .inr rfl, ⟨.medium 0x106 (by decide), by decide⟩⟩]
    pinned := true
    second := []
    byReference := false
    type := .array []
      (.simple [] (.reference 0x12 (.inr rfl) ⟨.short 0x0D (by decide), by decide⟩)) }
  have read : decodeLocal table modifiedArray = .ok (encoding.denotation table, []) :=
    (decodeLocal_exact table).complete encoding []
  have accepted : decodeLocalType table modifiedArray = .ok (.arrayOf .object) :=
    decodeLocalType_eq_ok_iff.mpr ⟨_, read, rfl⟩
  obtain ⟨cut, lengthened, -⟩ := signature_selfDelimiting table modifiedArray _ accepted
  refine ⟨accepted, ?_, lengthened [0x08] (List.cons_ne_nil _ _)⟩
  exact cut [0x20, 0x81] [0x06, 0x45, 0x1D, 0x12, 0x0D] rfl (List.cons_ne_nil _ _)

end DebugLens.Signature
