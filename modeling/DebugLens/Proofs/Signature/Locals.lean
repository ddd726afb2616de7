import DebugLens.Assoc
import DebugLens.Proofs.Refusal
import DebugLens.Proofs.Signature.Encoding

/-!
# The grammar of signatures of locals

An encoded type is modifiers and a code that needs no further type, or modifiers, the code of an
array and an encoded type. An encoded local is an encoded type with modifiers and the marks of a
pinned local and of a reference in front of it. What these mean is told by recursion over the
encoding; the decoder accepts exactly the encodings, each with this meaning.
-/
namespace DebugLens.Signature

/-! ## Types -/

/-- The encodings of types in which no other type is encoded. -/
inductive SimpleEncoding where
  /-- The code of a primitive type, with its entry. -/
  | primitive (entry : UInt8 × Text × SpecialType) (known : entry ∈ primitives)
  /-- The code of the string type. -/
  | string
  /-- The code of the object type. -/
  | object
  /-- The code of a class or value type, and the handle of the type. -/
  | reference (code : UInt8) (refers : code = 0x11 ∨ code = 0x12) (handle : Handle)

namespace SimpleEncoding

/-- The code. -/
def code : SimpleEncoding → UInt8
  | primitive entry _ => entry.1
  | string => 0x0E
  | object => 0x1C
  | reference code _ _ => code

/-- The bytes behind the code. -/
def operand : SimpleEncoding → Bytes
  | reference _ _ handle => handle.bytes
  | _ => []

/-- The type that is encoded; a handle that is not in the table gives a type that could not be
found. -/
def denotation (table : TokenTable) : SimpleEncoding → TypeSymbol
  | primitive entry _ => { name := entry.2.1, special := entry.2.2 }
  | string => .string
  | object => .object
  | reference _ _ handle =>
    (table handle.token).getD (.missing ("<unresolved " ++ Text.tokenText handle.token ++ ">"))

end SimpleEncoding

/-- The encodings of types. -/
inductive TypeEncoding where
  /-- A type in which no other type is encoded. -/
  | simple (modifiers : List Modifier) (encoding : SimpleEncoding)
  /-- An array with elements of an encoded type. -/
  | array (modifiers : List Modifier) (element : TypeEncoding)

namespace TypeEncoding

/-- The bytes. -/
def bytes : TypeEncoding → Bytes
  | simple modifiers encoding => modifierBytes modifiers ++ encoding.code :: encoding.operand
  | array modifiers element => modifierBytes modifiers ++ 0x1D :: element.bytes

/-- The type that is encoded. -/
def denotation (table : TokenTable) : TypeEncoding → TypeSymbol
  | simple _ encoding => encoding.denotation table
  | array _ element => .arrayOf (element.denotation table)

end TypeEncoding

/-- The codes of the primitive types differ from each other. -/
theorem primitives_distinct : (primitives.map Prod.fst).Nodup := by decide

/-- There are two codes in front of handles. -/
theorem isHandleCode_iff {code : UInt8} : isHandleCode code = true ↔ code = 0x11 ∨ code = 0x12 := by
  simp [isHandleCode]

/-- The encodings of types in which no other type is encoded are what is decoded as such, the
code being taken off before. -/
theorem decodeSimple_eq_ok_iff {table : TokenTable} {code : UInt8} {bytes rest : Bytes}
    {type : TypeSymbol} :
    decodeSimple table code bytes = .ok (type, rest) ↔
      ∃ encoding : SimpleEncoding, encoding.code = code ∧ bytes = encoding.operand ++ rest ∧
        encoding.denotation table = type := by
  constructor
  · intro decoded
    unfold decodeSimple at decoded
    split at decoded
    · next name special found =>
      cases decoded
      have known := (mem_iff_lookup primitives_distinct code (name, special)).mpr found
      exact ⟨.primitive (code, name, special) known, rfl, rfl, rfl⟩
    · split at decoded
      · next isString =>
        cases decoded
        exact ⟨.string, isString.symm, rfl, rfl⟩
      · split at decoded
        · next isObject =>
          cases decoded
          exact ⟨.object, isObject.symm, rfl, rfl⟩
        · split at decoded
          · next refers =>
            obtain ⟨⟨token, after⟩, read, last⟩ := bind_eq_ok_iff.mp decoded
            obtain ⟨handle, written, rfl⟩ := readHandle_exact.sound read
            cases last
            exact ⟨.reference code (isHandleCode_iff.mp refers) handle, rfl, written, rfl⟩
          · split at decoded <;> cases decoded
  · rintro ⟨encoding, rfl, rfl, rfl⟩
    cases encoding with
    | primitive entry known =>
      have found : primitives.lookup entry.1 = some entry.2 :=
        (mem_iff_lookup primitives_distinct entry.1 entry.2).mp known
      rw [decodeSimple, SimpleEncoding.code, found]
      rfl
    | string => rfl
    | object => rfl
    | reference code refers handle =>
      have read : readHandle (handle.bytes ++ rest) = .ok (handle.token, rest) :=
        readHandle_exact.complete handle rest
      obtain rfl | rfl := refers
      · exact bind_eq_ok_iff.mpr ⟨_, read, rfl⟩
      · exact bind_eq_ok_iff.mpr ⟨_, read, rfl⟩

/-- No modifier, mark of a local or array begins with the code of a type in which no other type
is encoded. -/
theorem SimpleEncoding.code_spec (encoding : SimpleEncoding) :
    isModifier encoding.code = false ∧ encoding.code ≠ arrayCode ∧
      encoding.code ≠ pinnedCode ∧ encoding.code ≠ byReferenceCode := by
  cases encoding with
  | primitive entry known =>
    have all : ∀ entry ∈ primitives, isModifier entry.1 = false ∧ entry.1 ≠ arrayCode ∧
        entry.1 ≠ pinnedCode ∧ entry.1 ≠ byReferenceCode := by decide
    exact all entry known
  | string => decide
  | object => decide
  | reference code refers handle =>
    show isModifier code = false ∧ code ≠ arrayCode ∧ code ≠ pinnedCode ∧ code ≠ byReferenceCode
    obtain rfl | rfl := refers <;> decide

/-- Decoding a type starts with the first byte that is no modifier's. -/
theorem decodeType_of_skip {table : TokenTable} {bytes tail : Bytes} {code : UInt8}
    (skipped : skipModifiers bytes = .ok (code :: tail)) :
    decodeType table bytes =
      if code = arrayCode then
        (decodeType table tail).map fun (element, rest) => (.arrayOf element, rest)
      else decodeSimple table code tail := by
  rw [decodeType]
  split
  · next failed => rw [skipped] at failed; cases failed
  · next empty => rw [skipped] at empty; cases empty
  · next found =>
    rw [skipped] at found
    cases found
    split
    · cases decodeType table tail <;> rfl
    · rfl

/-- An encoded type begins, behind modifiers, with a code that is no mark of a local. -/
theorem TypeEncoding.front (encoding : TypeEncoding) (rest : Bytes) :
    ∃ code tail, skipModifiers (encoding.bytes ++ rest) = .ok (code :: tail) ∧
      code ≠ pinnedCode ∧ code ≠ byReferenceCode := by
  cases encoding with
  | simple modifiers encoding =>
    obtain ⟨plain, -, notPinned, notReference⟩ := encoding.code_spec
    refine ⟨encoding.code, encoding.operand ++ rest, ?_, notPinned, notReference⟩
    rw [TypeEncoding.bytes, List.append_assoc]
    exact skipModifiers_front modifiers plain _
  | array modifiers element =>
    refine ⟨arrayCode, element.bytes ++ rest, ?_, by decide, by decide⟩
    rw [TypeEncoding.bytes, List.append_assoc]
    exact skipModifiers_front modifiers (by decide) _

/-- The encoded types are what is decoded as types. -/
theorem decodeType_exact (table : TokenTable) :
    ReadsExactly (decodeType table) TypeEncoding.bytes (TypeEncoding.denotation table) where
  complete encoding rest := by
    induction encoding generalizing rest with
    | simple modifiers encoding =>
      obtain ⟨plain, notArray, -, -⟩ := encoding.code_spec
      have skipped := skipModifiers_front modifiers plain (encoding.operand ++ rest)
      have decoded : decodeSimple table encoding.code (encoding.operand ++ rest) =
          .ok (encoding.denotation table, rest) :=
        decodeSimple_eq_ok_iff.mpr ⟨encoding, rfl, rfl, rfl⟩
      rw [TypeEncoding.bytes, List.append_assoc, List.cons_append, decodeType_of_skip skipped,
        if_neg notArray, decoded]
      rfl
    | array modifiers element hypothesis =>
      have skipped := skipModifiers_front modifiers (show isModifier 0x1D = false by decide)
        (element.bytes ++ rest)
      rw [TypeEncoding.bytes, List.append_assoc, List.cons_append, decodeType_of_skip skipped,
        if_pos (show 0x1D = arrayCode by rfl), hypothesis]
      rfl
  sound {bytes type rest} decoded := by
    fun_induction decodeType table bytes generalizing type rest with
    | case1 => cases decoded
    | case2 => cases decoded
    | case3 => cases decoded
    | case4 bytes tail element last elementDecoded skipped hypothesis =>
      cases decoded
      obtain ⟨⟨modifiers, rfl⟩, -⟩ := skipModifiers_eq_ok_iff.mp skipped
      obtain ⟨encoding, rfl, rfl⟩ := hypothesis elementDecoded
      exact ⟨.array modifiers encoding, by simp [TypeEncoding.bytes, arrayCode], rfl⟩
    | case5 bytes code tail skipped notArray =>
      obtain ⟨⟨modifiers, rfl⟩, -⟩ := skipModifiers_eq_ok_iff.mp skipped
      obtain ⟨encoding, rfl, rfl, rfl⟩ := decodeSimple_eq_ok_iff.mp decoded
      exact ⟨.simple modifiers encoding, by simp [TypeEncoding.bytes], rfl⟩

/-- What is decoded as a type does not depend on modifiers in front. -/
theorem decodeType_congr {table : TokenTable} {bytes other tail : Bytes} {code : UInt8}
    (skipped : skipModifiers bytes = .ok (code :: tail))
    (same : skipModifiers other = skipModifiers bytes) :
    decodeType table other = decodeType table bytes :=
  (decodeType_of_skip (same.trans skipped)).trans (decodeType_of_skip skipped).symm

/-! ## Locals -/

/-- The bytes of a mark, if it is there. -/
def markBytes (mark : UInt8) (marked : Bool) : Bytes := if marked then [mark] else []

/-- The encodings of locals. -/
structure LocalEncoding where
  /-- The modifiers in front. -/
  first : List Modifier
  /-- The mark of a pinned local is there. -/
  pinned : Bool
  /-- The modifiers behind the place of that mark. -/
  second : List Modifier
  /-- The mark of a local that is passed by reference is there. -/
  byReference : Bool
  /-- The type, with the modifiers in front of it. -/
  type : TypeEncoding

namespace LocalEncoding

/-- The bytes. -/
def bytes (encoding : LocalEncoding) : Bytes :=
  modifierBytes encoding.first ++ markBytes 0x45 encoding.pinned ++
    modifierBytes encoding.second ++ markBytes 0x10 encoding.byReference ++ encoding.type.bytes

/-- The local that is encoded. -/
def denotation (table : TokenTable) (encoding : LocalEncoding) : LocalType where
  type := encoding.type.denotation table
  pinned := encoding.pinned
  byReference := encoding.byReference

end LocalEncoding

/-- A mark is taken off, or found to be missing, behind any modifiers. -/
theorem takeMark_of_skip {bytes tail : Bytes} {code : UInt8} (mark : UInt8)
    (skipped : skipModifiers bytes = .ok (code :: tail)) :
    takeMark mark bytes = .ok (if code = mark then (true, tail) else (false, code :: tail)) := by
  rw [takeMark, skipped]
  rfl

/-- A mark that is looked for is found exactly if it is there, given that something else begins
behind it; what is left has the same first byte that is no modifier's. -/
theorem takeMark_complete {mark code : UInt8} (plain : isModifier mark = false)
    (modifiers : List Modifier) (marked : Bool) {rest tail : Bytes}
    (front : skipModifiers rest = .ok (code :: tail)) (other : code ≠ mark) :
    ∃ after, takeMark mark (modifierBytes modifiers ++ (markBytes mark marked ++ rest)) =
      .ok (marked, after) ∧ skipModifiers after = skipModifiers rest := by
  cases marked with
  | true =>
    refine ⟨rest, ?_, rfl⟩
    have skipped := skipModifiers_front modifiers plain rest
    rw [markBytes, if_pos rfl, List.singleton_append, takeMark_of_skip mark skipped, if_pos rfl]
  | false =>
    have unmodified : Unmodified (code :: tail) := (skipModifiers_eq_ok_iff.mp front).2
    refine ⟨code :: tail, ?_, (skipModifiers_of_unmodified unmodified).trans front.symm⟩
    have skipped := (skipModifiers_modifierBytes modifiers rest).trans front
    rw [markBytes, if_neg Bool.false_ne_true, List.nil_append, takeMark_of_skip mark skipped,
      if_neg other]

/-- What is taken off together with a mark is modifiers and the mark. -/
theorem takeMark_sound {mark : UInt8} {bytes rest : Bytes} {marked : Bool}
    (taken : takeMark mark bytes = .ok (marked, rest)) :
    ∃ modifiers, bytes = modifierBytes modifiers ++ (markBytes mark marked ++ rest) := by
  obtain ⟨after, skipped, peeked⟩ := bind_eq_ok_iff.mp taken
  obtain ⟨⟨modifiers, rfl⟩, -⟩ := skipModifiers_eq_ok_iff.mp skipped
  refine ⟨modifiers, ?_⟩
  cases after with
  | nil => cases peeked
  | cons code tail =>
    have found : (if code = mark then (true, tail) else (false, code :: tail)) = (marked, rest) :=
      Except.ok.inj peeked
    split at found
    · next isMark =>
      cases found
      rw [isMark]
      rfl
    · cases found
      rfl

/-- What begins behind the place of the mark of a pinned local is no such mark. -/
theorem front_behindPinned (modifiers : List Modifier) (byReference : Bool)
    (encoding : TypeEncoding) (rest : Bytes) :
    ∃ code tail, skipModifiers (modifierBytes modifiers ++
      (markBytes byReferenceCode byReference ++ (encoding.bytes ++ rest))) = .ok (code :: tail) ∧
        code ≠ pinnedCode := by
  cases byReference with
  | true =>
    exact ⟨byReferenceCode, encoding.bytes ++ rest, skipModifiers_front modifiers (by decide) _,
      by decide⟩
  | false =>
    obtain ⟨code, tail, front, notPinned, -⟩ := encoding.front rest
    exact ⟨code, tail, (skipModifiers_modifierBytes modifiers _).trans front, notPinned⟩

/-- The encoded locals are what is decoded as locals. -/
theorem decodeLocal_exact (table : TokenTable) :
    ReadsExactly (decodeLocal table) LocalEncoding.bytes (LocalEncoding.denotation table) where
  complete encoding rest := by
    obtain ⟨first, pinned, second, byReference, type⟩ := encoding
    -- A mark that is missing takes the modifiers up to the next byte with it, so what is left
    -- after a mark is known only up to the modifiers in front.
    obtain ⟨code, tail, front, -, notReference⟩ := type.front rest
    obtain ⟨behindReference, takenReference, sameType⟩ := takeMark_complete
      (show isModifier byReferenceCode = false by decide) second byReference front notReference
    obtain ⟨next, others, frontSecond, notPinned⟩ := front_behindPinned second byReference type rest
    obtain ⟨behindPinned, takenPinned, sameReference⟩ := takeMark_complete
      (show isModifier pinnedCode = false by decide) first pinned frontSecond notPinned
    have takenNext :
        takeMark byReferenceCode behindPinned = .ok (byReference, behindReference) := by
      rw [← takenReference, takeMark, takeMark, sameReference]
    have decodedType : decodeType table behindReference = .ok (type.denotation table, rest) :=
      (decodeType_congr front sameType).trans ((decodeType_exact table).complete type rest)
    simp only [LocalEncoding.bytes, List.append_assoc]
    exact bind_eq_ok_iff.mpr ⟨_, takenPinned, bind_eq_ok_iff.mpr
      ⟨_, takenNext, bind_eq_ok_iff.mpr ⟨_, decodedType, rfl⟩⟩⟩
  sound {bytes value rest} decoded := by
    obtain ⟨⟨pinned, behindPinned⟩, takenPinned, decoded⟩ := bind_eq_ok_iff.mp decoded
    obtain ⟨⟨byReference, behindReference⟩, takenReference, decoded⟩ := bind_eq_ok_iff.mp decoded
    obtain ⟨⟨type, last⟩, decodedType, decoded⟩ := bind_eq_ok_iff.mp decoded
    cases decoded
    obtain ⟨first, rfl⟩ := takeMark_sound takenPinned
    obtain ⟨second, rfl⟩ := takeMark_sound takenReference
    obtain ⟨encoding, rfl, rfl⟩ := (decodeType_exact table).sound decodedType
    refine ⟨⟨first, pinned, second, byReference, encoding⟩, ?_, rfl⟩
    simp [LocalEncoding.bytes, pinnedCode, byReferenceCode]

end DebugLens.Signature
