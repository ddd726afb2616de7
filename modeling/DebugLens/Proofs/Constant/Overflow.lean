import DebugLens.Proofs.Number.RoundingEnd
import DebugLens.Symbols

/-!
# Constants that are too large

A constant without an acceptable value is left out, whatever its type is. Only an integer that
rounds beyond the largest floating-point number is refused in another way, and it takes all
constants declared beside it along.
-/
namespace DebugLens

/-- The raw value is an integer that rounds beyond the largest floating-point number. -/
def RawConstant.isTooLarge : RawConstant → Bool
  | .integer value => Binary64.roundingEnd ≤ value.natAbs
  | _ => false

/-- Constants of the type are floating-point numbers. -/
def TypeSymbol.isFloat (type : TypeSymbol) : Bool :=
  type.representation.special = .single || type.representation.special = .double

/-- No raw value is too large for an integral type; it is unacceptable at worst. -/
theorem integralConstant_ne_tooLarge (type : IntegralType) (raw : RawConstant) :
    integralConstant type raw ≠ .error .tooLarge := by
  unfold integralConstant
  split
  · split <;> nofun
  · nofun

/-- No raw value is too large for a truth value. -/
theorem booleanConstant_ne_tooLarge (raw : RawConstant) :
    booleanConstant raw ≠ .error .tooLarge := by
  unfold booleanConstant
  split <;> nofun

/-- No raw value is too large for a character. -/
theorem characterConstant_ne_tooLarge (raw : RawConstant) :
    characterConstant raw ≠ .error .tooLarge := by
  unfold characterConstant
  split
  · nofun
  · split <;> nofun
  · nofun

/-- No raw value is too large for an exact decimal. -/
theorem decimalConstant_ne_tooLarge (raw : RawConstant) :
    decimalConstant raw ≠ .error .tooLarge := by
  unfold decimalConstant
  split
  · nofun
  · nofun
  · split <;> nofun
  · nofun

/-- No raw value is too large for an instant. -/
theorem instantConstant_ne_tooLarge (raw : RawConstant) :
    instantConstant raw ≠ .error .tooLarge := by
  unfold instantConstant
  split
  · nofun
  · split <;> nofun
  · nofun

/-- No raw value is too large for a text. -/
theorem textConstant_ne_tooLarge (raw : RawConstant) : textConstant raw ≠ .error .tooLarge := by
  unfold textConstant
  split <;> nofun

/-- No raw value is too large for a null reference. -/
theorem nullConstant_ne_tooLarge (raw : RawConstant) : nullConstant raw ≠ .error .tooLarge := by
  unfold nullConstant
  split <;> nofun

/-- A floating-point constant is too large exactly if its raw value is. -/
theorem floatConstant_eq_tooLarge_iff (raw : RawConstant) :
    floatConstant raw = .error .tooLarge ↔ raw.isTooLarge := by
  unfold floatConstant RawConstant.isTooLarge
  split
  · exact iff_of_false nofun nofun
  · next value =>
    rw [decide_eq_true_iff, ← Binary64.ofInt?_eq_none_iff]
    cases Binary64.ofInt? value with
    | none => exact iff_of_true rfl rfl
    | some rounded => exact iff_of_false nofun nofun
  · next integral =>
    cases raw with
    | integer value => exact absurd rfl (integral value)
    | _ => exact iff_of_false nofun nofun

/-- A constant is too large exactly if its type is a floating-point one and its raw value is too
large for that. -/
theorem TypeSymbol.constant_eq_tooLarge_iff (type : TypeSymbol) (raw : RawConstant) :
    type.constant raw = .error .tooLarge ↔ type.isFloat && raw.isTooLarge := by
  unfold constant isFloat
  generalize type.representation.isReference = isReference
  cases type.representation.special with
  | single => exact (floatConstant_eq_tooLarge_iff raw).trans (by simp)
  | double => exact (floatConstant_eq_tooLarge_iff raw).trans (by simp)
  | boolean => exact iff_of_false (booleanConstant_ne_tooLarge raw) nofun
  | character => exact iff_of_false (characterConstant_ne_tooLarge raw) nofun
  | decimal => exact iff_of_false (decimalConstant_ne_tooLarge raw) nofun
  | dateTime => exact iff_of_false (instantConstant_ne_tooLarge raw) nofun
  | string => exact iff_of_false (textConstant_ne_tooLarge raw) nofun
  | object => exact iff_of_false (nullConstant_ne_tooLarge raw) nofun
  | int8 | uint8 | int16 | uint16 | int32 | uint32 | int64 | uint64 =>
    exact iff_of_false (integralConstant_ne_tooLarge _ raw) nofun
  | ordinary | intPtr | uintPtr =>
    refine iff_of_false ?_ nofun
    cases isReference with
    | false => nofun
    | true => exact nullConstant_ne_tooLarge raw

namespace TypeTable

/-- The value of a declared constant is too large for its type. -/
def isTooLarge (table : TypeTable) (declaration : ConstantDeclaration) : Bool :=
  (table.constantType? declaration.signature).any fun type =>
    type.isFloat && (RawConstant.ofJson declaration.value).isTooLarge

/-- The symbol of a declared constant, if its type can be decoded and found and its value is one
of that type. -/
def acceptedSymbol? (table : TypeTable) (flags : List (Text × FlagList))
    (declaration : ConstantDeclaration) : Option ConstantSymbol := do
  let type ← table.constantType? declaration.signature
  let value ← (type.constant (.ofJson declaration.value)).toOption
  return { name := declaration.name, type, value, flags? := flags.lookup declaration.name }

/-- A declared constant is refused if it is too large, and else left out unless it is accepted. -/
theorem constantSymbol?_eq (table : TypeTable) (flags : List (Text × FlagList))
    (declaration : ConstantDeclaration) :
    table.constantSymbol? flags declaration =
      if table.isTooLarge declaration then .error .tooLarge
      else .ok (table.acceptedSymbol? flags declaration) := by
  unfold constantSymbol? isTooLarge acceptedSymbol?
  cases table.constantType? declaration.signature with
  | none => rfl
  | some type =>
    have large := type.constant_eq_tooLarge_iff (.ofJson declaration.value)
    simp only [Option.any_some, Option.bind_eq_bind, Option.bind_some]
    cases converted : type.constant (.ofJson declaration.value) with
    | ok value =>
      have fits := (not_congr (converted ▸ large)).mp nofun
      rw [if_neg fits]
      rfl
    | error reason =>
      cases reason with
      | unacceptable =>
        have fits := (not_congr (converted ▸ large)).mp nofun
        rw [if_neg fits]
        rfl
      | tooLarge => rw [if_pos (large.mp converted)]

/-- Declared constants are refused together if one of them is too large, and else those that are
accepted remain, in order. -/
theorem constantSymbolsOf_eq (table : TypeTable) (flags : List (Text × FlagList))
    (declarations : List ConstantDeclaration) :
    table.constantSymbolsOf flags declarations =
      if declarations.any table.isTooLarge then .error .tooLarge
      else .ok (declarations.filterMap (table.acceptedSymbol? flags)) := by
  induction declarations with
  | nil => rfl
  | cons declaration declarations hypothesis =>
    rw [constantSymbolsOf, constantSymbol?_eq, hypothesis, List.any_cons, List.filterMap_cons]
    cases table.isTooLarge declaration with
    | true => rfl
    | false =>
      cases declarations.any table.isTooLarge with
      | true => rfl
      | false =>
        cases table.acceptedSymbol? flags declaration with
        | none => rfl
        | some symbol => rfl

end TypeTable

end DebugLens
