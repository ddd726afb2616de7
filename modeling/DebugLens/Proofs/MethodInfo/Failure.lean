import DebugLens.Dump.Reader
import DebugLens.Proofs.Constant.Isolation
import DebugLens.Proofs.Import.ForwardedStrings
import DebugLens.Proofs.MethodInfo.Stability
import DebugLens.Proofs.Refusal
import DebugLens.Proofs.Scope.LastBoundary

/-!
# Queries without an answer

Malformed custom debug info leaves nothing known, and import strings, extern aliases, scopes and
constants that cannot be used are left out. Three things still keep a query from being answered: in
Visual Basic, a first string that names a method by a numeral with too many digits; an integer that
is too large for a floating-point constant in sight; and, around an offset that lies in a scope, a
boundary behind the largest offset of 32 bits that the offset has passed.
-/
namespace DebugLens

/-- The custom debug info of a method cannot be used: its import strings cannot be grouped, or its
hoisted scopes or dynamic locals cannot be read. In Visual Basic none of it is used. -/
def Dump.Unusable (dump : Dump) (query : MethodQuery) : Prop :=
  query.visualBasic = false ∧
    ((∃ fault, Import.groupedStrings (dump.source query.version) query.token = .error fault) ∨
      (∃ fault, hoistedScopes (dump.customInfo? query.version query.token) true = .error fault) ∨
      ∃ fault, dynamicMaps (dump.customInfo? query.version query.token)
        (dump.scopes query.token query.version) = .error fault)

/-- In Visual Basic, the first import string of a method names another one by a numeral that has too
many digits. -/
def Dump.NamesOverlong (dump : Dump) (query : MethodQuery) (length : Nat) : Prop :=
  query.visualBasic = true ∧ ∃ own, dump.importStrings? query.version query.token = some own ∧
    Import.Overlong own length

/-- The scopes of a method that contain the offset. -/
def Dump.around (dump : Dump) (query : MethodQuery) : List Scope :=
  Scope.containing (dump.scopes query.token query.version) query.visualBasic query.offset

/-- A scope that contains the offset declares a constant that is too large for its type. -/
def Dump.DeclaresTooLarge (dump : Dump) (types? : Option TypeTable) (query : MethodQuery) : Prop :=
  ∃ types, types? = some types ∧
    ∃ scope ∈ dump.around query, ∃ declaration ∈ scope.constants, types.isTooLarge declaration

/-- The offset lies in the span of a scope, and the last boundary before it lies behind the
largest offset of 32 bits. -/
def Dump.Outruns (dump : Dump) (query : MethodQuery) (last : Int) : Prop :=
  let scopes := dump.scopes query.token query.version
  Scope.InSight scopes query.visualBasic query.offset ∧
    IsLastBoundary (Scope.spans scopes query.visualBasic) query.offset last ∧
      Span.greatestOffset < last

/-- The constants of scopes whose types can be decoded and found and whose values are accepted. -/
def acceptedConstants (types? : Option TypeTable) (scopes : List Scope)
    (flags : List (Text × FlagList)) : List ConstantSymbol :=
  types?.elim [] fun types =>
    (scopes.flatMap Scope.constants).filterMap (types.acceptedSymbol? flags)

/-- Imports of C# cannot be used exactly if the import strings cannot be grouped. -/
theorem csharpImports_error_iff (dump : Dump) (types? : Option TypeTable) (token version : Int) :
    (∃ fault, csharpImports dump types? token version = .error fault) ↔
      ∃ fault, Import.groupedStrings (dump.source version) token = .error fault := by
  unfold csharpImports
  cases Import.groupedStrings (dump.source version) token with
  | error fault => exact iff_of_true ⟨fault, rfl⟩ ⟨fault, rfl⟩
  | ok strings? =>
    cases strings? with
    | none => exact iff_of_false nofun nofun
    | some strings => exact iff_of_false nofun nofun

/-- The part of a C# answer that depends on the language is missing exactly if a part of the custom
debug info cannot be used. -/
theorem csharpInfo_error_iff (dump : Dump) (types? : Option TypeTable) (query : MethodQuery)
    (scopes : List Scope) :
    (∃ fault, csharpInfo dump types? query scopes = .error fault) ↔
      (∃ fault, Import.groupedStrings (dump.source query.version) query.token = .error fault) ∨
        (∃ fault, hoistedScopes (dump.customInfo? query.version query.token) true =
          .error fault) ∨
        ∃ fault, dynamicMaps (dump.customInfo? query.version query.token) scopes =
          .error fault := by
  rw [← csharpImports_error_iff dump types? query.token query.version]
  unfold csharpInfo
  dsimp only
  cases csharpImports dump types? query.token query.version with
  | error fault => exact iff_of_true ⟨fault, rfl⟩ (.inl ⟨fault, rfl⟩)
  | ok imports =>
    cases hoistedScopes (dump.customInfo? query.version query.token) true with
    | error fault => exact iff_of_true ⟨fault, rfl⟩ (.inr (.inl ⟨fault, rfl⟩))
    | ok hoisted =>
      cases dynamicMaps (dump.customInfo? query.version query.token) scopes with
      | error fault => exact iff_of_true ⟨fault, rfl⟩ (.inr (.inr ⟨fault, rfl⟩))
      | ok dynamic =>
        refine iff_of_false nofun ?_
        rintro (⟨_, ⟨⟩⟩ | ⟨_, ⟨⟩⟩ | ⟨_, ⟨⟩⟩)

/-- The part of a Visual Basic answer that depends on the language is missing exactly if the first
string names a method by a numeral that is too long. -/
theorem basicInfo_eq_error_iff {dump : Dump} {query : MethodQuery} {error : Text.LongNumeral} :
    basicInfo dump query = .error error ↔
      ∃ own, dump.importStrings? query.version query.token = some own ∧
        Import.Overlong own error.length := by
  rw [← Import.visualBasicStrings_eq_error_iff]
  unfold basicInfo basicImports?
  cases Import.visualBasicStrings (dump.importStrings? query.version) query.token with
  | error fault =>
    -- Both sides say that the numerals are the same.
    exact (Except.error.injEq ..).to_iff.trans (Except.error.injEq ..).to_iff.symm
  | ok strings? => cases strings? <;> exact iff_of_false nofun nofun

section Language

variable (dump : Dump) (types? : Option TypeTable) (query : MethodQuery)

/-- Custom debug info is to blame exactly if it cannot be used. -/
theorem languageInfo_customInfo_iff :
    (∃ fault, languageInfo dump types? query (dump.scopes query.token query.version) =
        .error (.customInfo fault)) ↔
      dump.Unusable query := by
  unfold languageInfo Dump.Unusable
  rw [← csharpInfo_error_iff dump types?]
  cases query.visualBasic with
  | true => simp [mapError_eq_error_iff]
  | false => simp [mapError_eq_error_iff]

/-- An import string is to blame exactly if it names a method by a numeral that is too long. -/
theorem languageInfo_importToken_iff (scopes : List Scope) (error : Text.LongNumeral) :
    languageInfo dump types? query scopes = .error (.importToken error) ↔
      dump.NamesOverlong query error.length := by
  unfold languageInfo Dump.NamesOverlong
  rw [← basicInfo_eq_error_iff]
  cases query.visualBasic with
  | true => simp [mapError_eq_error_iff]
  | false => simp [mapError_eq_error_iff]

/-- Nothing else is to blame. -/
theorem languageInfo_error_cases {scopes : List Scope} {error : QueryError}
    (failed : languageInfo dump types? query scopes = .error error) :
    (∃ fault, error = .customInfo fault) ∨ ∃ fault, error = .importToken fault := by
  unfold languageInfo at failed
  split at failed
  · obtain ⟨fault, -, rfl⟩ := mapError_eq_error_iff.mp failed
    exact .inr ⟨fault, rfl⟩
  · obtain ⟨fault, -, rfl⟩ := mapError_eq_error_iff.mp failed
    exact .inl ⟨fault, rfl⟩

end Language

/-- A constant that is too large takes all constants around the offset along. -/
theorem constantsIn_around_of_tooLarge {dump : Dump} {types? : Option TypeTable}
    {query : MethodQuery} (large : dump.DeclaresTooLarge types? query)
    (flags : List (Text × FlagList)) :
    constantsIn types? (dump.around query) flags = .error .tooLarge := by
  obtain ⟨types, rfl, scope, listed, declaration, declared, large⟩ := large
  have found : ((dump.around query).flatMap Scope.constants).any types.isTooLarge :=
    List.any_eq_true.mpr ⟨declaration, List.mem_flatMap.mpr ⟨scope, listed, declared⟩, large⟩
  exact (types.constantSymbolsOf_eq flags _).trans (if_pos found)

/-- If no constant is too large, those that are accepted remain. -/
theorem constantsIn_around_of_fitting {dump : Dump} {types? : Option TypeTable}
    {query : MethodQuery} (fitting : ¬dump.DeclaresTooLarge types? query)
    (flags : List (Text × FlagList)) :
    constantsIn types? (dump.around query) flags =
      .ok (acceptedConstants types? (dump.around query) flags) := by
  cases types? with
  | none => rfl
  | some types =>
    have unfound : ¬((dump.around query).flatMap Scope.constants).any types.isTooLarge := by
      intro found
      obtain ⟨declaration, declared, large⟩ := List.any_eq_true.mp found
      obtain ⟨scope, listed, declared⟩ := List.mem_flatMap.mp declared
      exact fitting ⟨types, rfl, scope, listed, declaration, declared, large⟩
    exact (types.constantSymbolsOf_eq flags _).trans (if_neg unfound)

/-- A method has no reuse span around an offset exactly if the offset outruns those of 32 bits. -/
theorem reuseSpan_error_iff_outruns {dump : Dump} {query : MethodQuery} {fault : SpanError} :
    Scope.reuseSpan (dump.scopes query.token query.version) query.visualBasic query.offset =
        .error fault ↔
      ∃ last, dump.Outruns query last ∧ fault = .disordered last Span.greatestOffset := by
  rw [Scope.reuseSpan_eq_error_iff]
  constructor
  · rintro ⟨inSight, last, isLast, behind, rfl⟩
    exact ⟨last, ⟨inSight, isLast, behind⟩, rfl⟩
  · rintro ⟨last, ⟨inSight, isLast, behind⟩, rfl⟩
    exact ⟨inSight, last, isLast, behind, rfl⟩

section Completion

variable {dump : Dump} {types? : Option TypeTable} {query : MethodQuery} (info : MethodInfo)

/-- A constant that is too large keeps what is known from being completed. -/
theorem atOffset_of_tooLarge (large : dump.DeclaresTooLarge types? query) :
    info.atOffset types? (dump.scopes query.token query.version) query.visualBasic query.offset =
      .error (.constant .tooLarge) := by
  have refused := constantsIn_around_of_tooLarge large info.dynamic.byName
  unfold Dump.around at refused
  unfold MethodInfo.atOffset
  dsimp only
  rw [refused]
  rfl

/-- So does an offset without a reuse span. -/
theorem atOffset_of_refused_span (fitting : ¬dump.DeclaresTooLarge types? query)
    {reason : SpanError}
    (refused : Scope.reuseSpan (dump.scopes query.token query.version) query.visualBasic
      query.offset = .error reason) :
    info.atOffset types? (dump.scopes query.token query.version) query.visualBasic query.offset =
      .error (.span reason) := by
  have accepted := constantsIn_around_of_fitting fitting info.dynamic.byName
  unfold Dump.around at accepted
  unfold MethodInfo.atOffset
  dsimp only
  rw [accepted, refused]
  rfl

/-- Without either, it is completed by the names and the accepted constants of the scopes around
the offset. -/
theorem atOffset_of_narrowed (fitting : ¬dump.DeclaresTooLarge types? query) {reuse : Span}
    (narrowed : Scope.reuseSpan (dump.scopes query.token query.version) query.visualBasic
      query.offset = .ok reuse) :
    info.atOffset types? (dump.scopes query.token query.version) query.visualBasic query.offset =
      .ok { info with
        localNames := Scope.localNames (dump.around query)
        constants := acceptedConstants types? (dump.around query) info.dynamic.byName
        reuseSpan := reuse } := by
  have accepted := constantsIn_around_of_fitting fitting info.dynamic.byName
  unfold Dump.around at accepted
  unfold MethodInfo.atOffset
  dsimp only
  rw [accepted, narrowed]
  rfl

end Completion

/-- What is known about a method is completed, unless a constant around the offset is too large or
the offset outruns those of 32 bits. -/
theorem atOffset_exact (dump : Dump) (types? : Option TypeTable) (query : MethodQuery)
    (info : MethodInfo) :
    (∀ fault, info.atOffset types? (dump.scopes query.token query.version) query.visualBasic
        query.offset = .error fault ↔
      (dump.DeclaresTooLarge types? query ∧ fault = .constant .tooLarge) ∨
      (¬dump.DeclaresTooLarge types? query ∧ ∃ last, dump.Outruns query last ∧
        fault = .span (.disordered last Span.greatestOffset))) ∧
    (¬dump.DeclaresTooLarge types? query → (∀ last, ¬dump.Outruns query last) →
      ∃ reuse, Scope.reuseSpan (dump.scopes query.token query.version) query.visualBasic
          query.offset = .ok reuse ∧
        info.atOffset types? (dump.scopes query.token query.version) query.visualBasic
            query.offset =
          .ok { info with
            localNames := Scope.localNames (dump.around query)
            constants := acceptedConstants types? (dump.around query) info.dynamic.byName
            reuseSpan := reuse }) := by
  -- Constants are converted before the span is narrowed, so theirs is the first fault.
  by_cases large : dump.DeclaresTooLarge types? query
  · rw [atOffset_of_tooLarge info large]
    refine ⟨fun fault => ?_, fun fitting => absurd large fitting⟩
    simp only [large, true_and, not_true_eq_false, false_and, or_false, Except.error.injEq,
      eq_comm]
  · cases narrowed : Scope.reuseSpan (dump.scopes query.token query.version)
      query.visualBasic query.offset with
    | error reason =>
      obtain ⟨last, outrun, rfl⟩ := reuseSpan_error_iff_outruns.mp narrowed
      rw [atOffset_of_refused_span info large narrowed]
      refine ⟨fun fault => ?_, fun _ inReach => absurd outrun (inReach last)⟩
      constructor
      · rintro ⟨⟩
        exact .inr ⟨large, last, outrun, rfl⟩
      · rintro (⟨claimed, -⟩ | ⟨-, other, otherOutrun, rfl⟩)
        · exact absurd claimed large
        · -- The last boundary is unique.
          rw [outrun.2.1.unique otherOutrun.2.1]
    | ok reuse =>
      rw [atOffset_of_narrowed info large narrowed]
      refine ⟨fun fault => iff_of_false nofun ?_, fun _ _ => ⟨reuse, rfl, rfl⟩⟩
      rintro (⟨claimed, -⟩ | ⟨-, last, outrun, -⟩)
      · exact absurd claimed large
      · have refused := reuseSpan_error_iff_outruns.mpr ⟨last, outrun, rfl⟩
        exact nomatch narrowed.symm.trans refused

/-- Unusable custom debug info leaves nothing known, and a numeral for a method that is too long
leaves the query without an answer. Otherwise a query has no answer exactly if a constant around the
offset is too large or the offset outruns those of 32 bits; without either, the answer has the names
and the accepted constants of the scopes around the offset. -/
theorem readMethodInfo_exact (dump : Dump) (types? : Option TypeTable) (query : MethodQuery) :
    (dump.Unusable query → readMethodInfo dump types? query = .ok .unknown) ∧
    (∀ length, dump.NamesOverlong query length →
      readMethodInfo dump types? query = .error (.importToken ⟨length⟩)) ∧
    (¬dump.Unusable query → (∀ length, ¬dump.NamesOverlong query length) → ∃ info,
      languageInfo dump types? query (dump.scopes query.token query.version) = .ok info ∧
      (∀ fault, readMethodInfo dump types? query = .error fault ↔
        (dump.DeclaresTooLarge types? query ∧ fault = .constant .tooLarge) ∨
        (¬dump.DeclaresTooLarge types? query ∧ ∃ last, dump.Outruns query last ∧
          fault = .span (.disordered last Span.greatestOffset))) ∧
      (¬dump.DeclaresTooLarge types? query → (∀ last, ¬dump.Outruns query last) →
        ∃ reuse, Scope.reuseSpan (dump.scopes query.token query.version) query.visualBasic
            query.offset = .ok reuse ∧
          readMethodInfo dump types? query =
            .ok { info with
              localNames := Scope.localNames (dump.around query)
              constants := acceptedConstants types? (dump.around query) info.dynamic.byName
              reuseSpan := reuse })) := by
  have custom := languageInfo_customInfo_iff dump types? query
  have token := languageInfo_importToken_iff dump types? query
    (dump.scopes query.token query.version)
  rw [readMethodInfo_eq]
  refine ⟨fun unusable => ?_, fun length overlong => ?_, fun usable short => ?_⟩
  · obtain ⟨fault, failed⟩ := custom.mpr unusable
    rw [failed]
    rfl
  · rw [(token ⟨length⟩).mpr overlong]
    rfl
  · cases known : languageInfo dump types? query (dump.scopes query.token query.version) with
    | error error =>
      rcases languageInfo_error_cases dump types? query known with ⟨fault, rfl⟩ | ⟨fault, rfl⟩
      · exact absurd (custom.mp ⟨fault, known⟩) usable
      · exact absurd ((token fault).mp known) (short fault.length)
    | ok info => exact ⟨info, rfl, atOffset_exact dump types? query info⟩

/-- A method with one scope that starts behind the largest offset of 32 bits. -/
def farScope : Dump where
  methods := [{ token := 1, version := 1, root? := some (.node 0x100000000 0x100000004 [] [] []) }]

/-- At an offset of that scope, its start is the last boundary. -/
theorem farScope_outruns : farScope.Outruns ⟨1, 1, 0x100000001, false⟩ 0x100000000 := by
  have spans : Scope.spans (farScope.scopes 1 1) false =
      [⟨0x100000000, 0x100000004, by decide⟩] := by cbv
  have boundaries (boundary : Int) : IsBoundary (Scope.spans (farScope.scopes 1 1) false) boundary ↔
      boundary = 0x100000000 ∨ boundary = 0x100000004 := by
    simp [spans, IsBoundary]
  refine ⟨⟨by decide, ?_⟩, ⟨⟨?_, by decide⟩, ?_⟩, by decide⟩
  · rw [spans]
    exact ⟨_, .head _, by decide⟩
  · exact (boundaries _).mpr (.inl rfl)
  · rintro boundary ⟨listed, before⟩
    dsimp only at before
    rcases (boundaries boundary).mp listed with rfl | rfl
    · exact Int.le_refl _
    · omega

/-- A method that names another one by one zero more than a numeral may have. -/
def overlongForward : Dump where
  methods := [{
    token := 1, version := 1
    importStrings? := some
      [.char '@' :: (List.replicate (Text.greatestNumeral + 1) '0').map .char] }]

/-- That numeral is too long. -/
theorem overlongForward_namesOverlong :
    overlongForward.NamesOverlong ⟨1, 1, 0, true⟩ (Text.greatestNumeral + 1) := by
  refine ⟨rfl, _, rfl, _, _, _, rfl, ⟨rfl, List.cons_ne_nil _ _, ?_⟩, ?_, List.length_replicate⟩
  · intro c listed
    rw [List.eq_of_mem_replicate listed]
    rfl
  · rw [List.length_replicate]
    exact Nat.lt_succ_self _

/-- Neither the query about that offset nor one about that method in Visual Basic is answered. -/
theorem queries_unanswered :
    (¬farScope.Unusable ⟨1, 1, 0x100000001, false⟩ ∧
      readMethodInfo farScope none ⟨1, 1, 0x100000001, false⟩ =
        .error (.span (.disordered 0x100000000 Span.greatestOffset))) ∧
      readMethodInfo overlongForward none ⟨1, 1, 0, true⟩ =
        .error (.importToken ⟨Text.greatestNumeral + 1⟩) := by
  have usable : ¬farScope.Unusable ⟨1, 1, 0x100000001, false⟩ := by
    rw [← languageInfo_customInfo_iff farScope none]
    rintro ⟨fault, ⟨⟩⟩
  obtain ⟨-, -, answered⟩ := readMethodInfo_exact farScope none ⟨1, 1, 0x100000001, false⟩
  obtain ⟨info, known, refused, -⟩ := answered usable fun length overlong => nomatch overlong.1
  obtain ⟨-, overlong, -⟩ := readMethodInfo_exact overlongForward none ⟨1, 1, 0, true⟩
  exact ⟨⟨usable, (refused _).mpr (.inr ⟨nofun, _, farScope_outruns, rfl⟩)⟩,
    overlong _ overlongForward_namesOverlong⟩

/-- A dump of one method, whose scope declares a constant of a floating-point type. -/
def doubleJson (value : Int) : Json :=
  .object [("methods", .array [.object [("token", .integer 1),
    ("root_scope", .object [("end", .integer 32),
      ("constants", .array [.object [("name", .string "d"), ("value", .integer value),
        ("signature", .string "0d")]])])]])]

/-- What is read from it. -/
def doubleDump (value : Int) : Dump where
  methods := [{
    token := 1, version := 1
    root? := some (.node 0 32 [] [⟨"d", .integer value, [0x0D]⟩] []) }]

/-- The dump is read, whatever the value is. -/
theorem ofJson_doubleJson (value : Int) : Dump.ofJson (doubleJson value) = .ok (doubleDump value) :=
  rfl

/-- The constant of that dump is too large, if its value is so. -/
theorem doubleDump_declaresTooLarge {value : Int} (large : Binary64.roundingEnd ≤ value.natAbs) :
    (doubleDump value).DeclaresTooLarge (some {}) ⟨1, 1, 0, false⟩ := by
  have around : (doubleDump value).around ⟨1, 1, 0, false⟩ =
      [.node 0 32 [] [⟨"d", .integer value, [0x0D]⟩] []] := by cbv
  refine ⟨{}, rfl, .node 0 32 [] [⟨"d", .integer value, [0x0D]⟩] [], ?_, _, .head _, ?_⟩
  · rw [around]
    exact .head _
  · exact TypeTable.isTooLarge_double {} _ large

/-- A dump that can be read, with a type table that can be read, leaves a query unanswered: the
least power of two that is no floating-point number is declared as one. -/
theorem hugeConstant_unanswered :
    ∃ dump types, Dump.ofJson (doubleJson (twoTo 1024)) = .ok dump ∧ dump.typeTable = .ok types ∧
      readMethodInfo dump (some types) ⟨1, 1, 0, false⟩ = .error (.constant .tooLarge) := by
  have large : Binary64.roundingEnd ≤ (twoTo 1024 : Int).natAbs := by
    rw [Int.natAbs_natCast]
    exact Nat.le_of_lt Binary64.roundingEnd_bits.2
  -- Nothing below may compute the number itself.
  generalize (twoTo 1024 : Int) = value at large ⊢
  have known : languageInfo (doubleDump value) (some {}) ⟨1, 1, 0, false⟩
      ((doubleDump value).scopes 1 1) = .ok {} := rfl
  refine ⟨doubleDump value, {}, ofJson_doubleJson value, rfl, ?_⟩
  rw [readMethodInfo_eq, known]
  exact atOffset_of_tooLarge {} (doubleDump_declaresTooLarge large)

end DebugLens
