import DebugLens.Proofs.Constant.Overflow
import DebugLens.Proofs.Signature.Locals

/-!
# Constants beside each other

Constants that scopes declare become symbols one by one: one without a type or without a value of
its type is left out, and the others stay as they are. The only exception is an integer that rounds
beyond the largest floating-point number, declared with a floating-point type. It takes all others
along, so that not even those that were accepted without it remain.
-/
namespace DebugLens

namespace TypeTable

/-- The type of a constant is the one that its signature encodes, unless that could not be
found. -/
theorem constantType?_eq_some_iff {table : TypeTable} {signature : Bytes} {type : TypeSymbol} :
    table.constantType? signature = some type ↔
      ∃ encoding : Signature.LocalEncoding, signature = encoding.bytes ∧
        encoding.type.denotation table.tokens = type ∧ type.kind ≠ .error := by
  have decoded : Signature.decodeLocalType table.tokens signature = .ok type ↔
      ∃ encoding : Signature.LocalEncoding, signature = encoding.bytes ∧
        encoding.type.denotation table.tokens = type := by
    constructor
    · intro decoded
      obtain ⟨⟨localType, rest⟩, read, last⟩ := bind_eq_ok_iff.mp decoded
      obtain ⟨encoding, rfl, rfl⟩ := (Signature.decodeLocal_exact table.tokens).sound read
      cases rest with
      | nil => exact ⟨encoding, List.append_nil _, Except.ok.inj last⟩
      | cons byte rest => contradiction
    · rintro ⟨encoding, rfl, rfl⟩
      have read := (Signature.decodeLocal_exact table.tokens).complete encoding []
      rw [List.append_nil] at read
      exact bind_eq_ok_iff.mpr ⟨_, read, rfl⟩
  unfold constantType?
  constructor
  · intro found
    split at found
    · next other read =>
      split at found
      · contradiction
      · next known =>
        obtain rfl := Option.some.inj found
        obtain ⟨encoding, written, denoted⟩ := decoded.mp read
        exact ⟨encoding, written, denoted, known⟩
    · contradiction
  · rintro ⟨encoding, written, denoted, known⟩
    rw [decoded.mpr ⟨encoding, written, denoted⟩]
    exact if_neg known

/-- The code of a primitive type is a signature. -/
theorem constantType?_primitive (table : TypeTable) {code : UInt8} {name : Text}
    {special : SpecialType} (listed : (code, name, special) ∈ Signature.primitives) :
    table.constantType? [code] = some { name, special } :=
  constantType?_eq_some_iff.mpr
    ⟨⟨[], false, [], false, .simple [] (.primitive (code, name, special) listed)⟩, rfl, rfl, nofun⟩

/-- A constant is too large exactly if its signature encodes a floating-point type and its value is
an integer that rounds beyond the largest floating-point number. -/
theorem isTooLarge_iff (table : TypeTable) (declaration : ConstantDeclaration) :
    table.isTooLarge declaration ↔
      ∃ (encoding : Signature.LocalEncoding) (value : Int),
        declaration.signature = encoding.bytes ∧
        (encoding.type.denotation table.tokens).kind ≠ .error ∧
        (encoding.type.denotation table.tokens).isFloat ∧
        declaration.value = .integer value ∧ Binary64.roundingEnd ≤ value.natAbs := by
  have large : (RawConstant.ofJson declaration.value).isTooLarge ↔
      ∃ value : Int, declaration.value = .integer value ∧
        Binary64.roundingEnd ≤ value.natAbs := by
    cases declaration.value with
    | integer value => simp [RawConstant.ofJson, RawConstant.isTooLarge]
    | _ => exact iff_of_false nofun nofun
  rw [isTooLarge, Option.any_eq_true]
  constructor
  · rintro ⟨type, found, refused⟩
    obtain ⟨encoding, written, rfl, known⟩ := constantType?_eq_some_iff.mp found
    obtain ⟨float, refused⟩ := Bool.and_eq_true_iff.mp refused
    obtain ⟨value, stored, bound⟩ := large.mp refused
    exact ⟨encoding, value, written, known, float, stored, bound⟩
  · rintro ⟨encoding, value, written, known, float, stored, bound⟩
    refine ⟨_, constantType?_eq_some_iff.mpr ⟨encoding, written, rfl, known⟩, ?_⟩
    exact Bool.and_eq_true_iff.mpr ⟨float, large.mpr ⟨value, stored, bound⟩⟩

/-- An integer that rounds beyond the largest floating-point number is too large for a constant
whose signature is the code of the numbers of 64 bits. -/
theorem isTooLarge_double (table : TypeTable) (name : Text) {value : Int}
    (large : Binary64.roundingEnd ≤ value.natAbs) :
    table.isTooLarge ⟨name, .integer value, [0x0D]⟩ := by
  have double : table.constantType? [0x0D] = some { name := "System.Double", special := .double } :=
    table.constantType?_primitive (by decide)
  unfold isTooLarge
  dsimp only
  rw [double]
  simp [TypeSymbol.isFloat, TypeSymbol.representation, RawConstant.ofJson, RawConstant.isTooLarge,
    large]

/-- A scope declares a constant that is too large. -/
def declaresTooLarge (table : TypeTable) (scopes : List Scope) : Bool :=
  scopes.any fun scope => scope.constants.any table.isTooLarge

/-- The constants of scopes are refused together if one of them is too large, and else those that
are accepted remain, in order. -/
theorem constantSymbols_eq (table : TypeTable) (scopes : List Scope)
    (flags : List (Text × FlagList)) :
    table.constantSymbols scopes flags =
      if table.declaresTooLarge scopes then .error .tooLarge
      else .ok ((scopes.flatMap Scope.constants).filterMap (table.acceptedSymbol? flags)) := by
  rw [constantSymbols, constantSymbolsOf_eq, List.any_flatMap]
  rfl

end TypeTable

/-- One more constant among those that scopes declare adds at most its own symbol, at its place
between the symbols of the constants in front of it and those of the ones behind it. The symbols
are refused without it exactly if one of the others is too large, and with it exactly if one of
them or it is. -/
theorem constants_isolated_exact (table : TypeTable) (flags : List (Text × FlagList))
    (before after : List Scope) (start stop : Int) (locals : List LocalDeclaration)
    (front back : List ConstantDeclaration) (children : List Scope)
    (extra : ConstantDeclaration) :
    ∃ scopes extended left right,
      scopes = before ++ .node start stop locals (front ++ back) children :: after ∧
      extended = before ++ .node start stop locals (front ++ extra :: back) children :: after ∧
      left = (before.flatMap Scope.constants ++ front).filterMap (table.acceptedSymbol? flags) ∧
      right = (back ++ after.flatMap Scope.constants).filterMap (table.acceptedSymbol? flags) ∧
      table.constantSymbols scopes flags =
        (if table.declaresTooLarge scopes then .error .tooLarge else .ok (left ++ right)) ∧
      table.constantSymbols extended flags =
        (if table.declaresTooLarge scopes || table.isTooLarge extra then .error .tooLarge
        else .ok (left ++ (table.acceptedSymbol? flags extra).toList ++ right)) ∧
      (table.declaresTooLarge scopes ↔
        ∃ scope ∈ scopes, ∃ declaration ∈ scope.constants, table.isTooLarge declaration) ∧
      ∀ declaration, table.isTooLarge declaration ↔
        ∃ (encoding : Signature.LocalEncoding) (value : Int),
          declaration.signature = encoding.bytes ∧
          (encoding.type.denotation table.tokens).kind ≠ .error ∧
          (encoding.type.denotation table.tokens).isFloat ∧
          declaration.value = .integer value ∧ Binary64.roundingEnd ≤ value.natAbs := by
  refine ⟨_, _, _, _, rfl, rfl, rfl, rfl, ?_, ?_, ?_, table.isTooLarge_iff⟩
  · rw [table.constantSymbols_eq]
    simp only [List.flatMap_append, List.flatMap_cons, Scope.constants, List.filterMap_append,
      List.append_assoc]
  · have large : table.declaresTooLarge
        (before ++ .node start stop locals (front ++ extra :: back) children :: after) =
        (table.declaresTooLarge
          (before ++ .node start stop locals (front ++ back) children :: after) ||
            table.isTooLarge extra) := by
      simp only [TypeTable.declaresTooLarge, List.any_append, List.any_cons, Scope.constants]
      ac_rfl
    have own : List.filterMap (table.acceptedSymbol? flags) [extra] =
        (table.acceptedSymbol? flags extra).toList := by
      cases accepted : table.acceptedSymbol? flags extra with
      | none => simp [accepted]
      | some symbol => simp [accepted]
    rw [table.constantSymbols_eq, large, ← own]
    simp only [List.flatMap_append, List.flatMap_cons, Scope.constants, List.filterMap_append,
      List.append_assoc, ← List.singleton_append (l := back)]
  · simp only [TypeTable.declaresTooLarge, List.any_eq_true]

/-- An integer constant is accepted alone. Beside a constant that is the least power of two beyond
the floating-point numbers, and declared as one of them, it is lost. -/
theorem hugeConstant_costs_others :
    ∃ scopes extended,
      scopes = [.node 0 32 [] [⟨"ok", .integer 7, [0x08]⟩] []] ∧
      extended = [.node 0 32 []
        [⟨"ok", .integer 7, [0x08]⟩, ⟨"d", .integer (twoTo 1024), [0x0D]⟩] []] ∧
      TypeTable.constantSymbols {} scopes [] =
        .ok [⟨"ok", { name := "System.Int32", special := .int32 }, .integer 7, none⟩] ∧
      TypeTable.constantSymbols {} extended [] = .error .tooLarge := by
  have large : Binary64.roundingEnd ≤ (twoTo 1024 : Int).natAbs := by
    rw [Int.natAbs_natCast]
    exact Nat.le_of_lt Binary64.roundingEnd_bits.2
  -- Nothing below may compute the number itself.
  generalize (twoTo 1024 : Int) = value at large ⊢
  refine ⟨_, _, rfl, rfl, ?_, ?_⟩
  · have type : TypeTable.constantType? {} [0x08] =
        some { name := "System.Int32", special := .int32 } :=
      TypeTable.constantType?_primitive {} (by decide)
    have kept : TypeTable.constantSymbol? {} [] ⟨"ok", .integer 7, [0x08]⟩ =
        .ok (some ⟨"ok", { name := "System.Int32", special := .int32 }, .integer 7, none⟩) := by
      unfold TypeTable.constantSymbol?
      dsimp only
      rw [type]
      rfl
    change TypeTable.constantSymbolsOf {} [] [_] = _
    rw [TypeTable.constantSymbolsOf, kept]
    rfl
  · rw [TypeTable.constantSymbols_eq]
    apply if_pos
    refine List.any_eq_true.mpr ⟨_, .head _, List.any_eq_true.mpr ⟨_, .tail _ (.head _), ?_⟩⟩
    exact TypeTable.isTooLarge_double {} _ large

end DebugLens
