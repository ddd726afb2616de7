import DebugLens.Proofs.Dump.Methods
import DebugLens.Proofs.MethodInfo.Stability

/-!
# Isolation of versions

A query about one version of a method looks up methods of that version only: the queried one, those
that it forwards to, the one whose extern aliases it refers to, and the one that a Visual Basic
string names. So the answer, or the reason for there being none, is the same for all dumps with the
same methods of that version, whatever their methods of other versions are.
-/
namespace DebugLens

namespace Dump

/-- Two dumps have the same methods of a version. -/
def AgreesAt (version : Int) (dump other : Dump) : Prop :=
  ∀ token, dump.method? token version = other.method? token version

variable {version : Int} {dump other third : Dump}

/-- Dumps that agree with the same dump agree with each other. -/
theorem AgreesAt.trans (first : AgreesAt version dump other)
    (second : AgreesAt version other third) : AgreesAt version dump third :=
  fun token => (first token).trans (second token)

/-! ## Changes of other versions -/

/-- Adding or replacing a method of another version keeps the methods of a version. -/
theorem agreesAt_putMethod (dump : Dump) {method : Method} (apart : method.version ≠ version) :
    AgreesAt version dump { dump with methods := putMethod method dump.methods } := by
  intro token
  have differs : (token, version) ≠ (method.token, method.version) := fun same =>
    apart (Prod.mk.inj same).2.symm
  rw [method?_putMethod, if_neg differs]

/-- So does removing methods of other versions. -/
theorem agreesAt_filter (dump : Dump) {kept : Method → Bool}
    (keeps : ∀ method, method.version = version → kept method) :
    AgreesAt version dump { dump with methods := dump.methods.filter kept } := by
  intro token
  show dump.methods.find? _ = (dump.methods.filter kept).find? _
  rw [List.find?_filter]
  congr 1
  funext method
  by_cases same : method.version = version
  · simp [same, keeps method same]
  · simp [same]

/-! ## What a query looks up -/

/-- The custom debug info and the import strings of a version are those of its methods. -/
theorem AgreesAt.source_eq (agrees : AgreesAt version dump other) :
    dump.source version = other.source version := by
  unfold source customInfo? importStrings?
  simp only [agrees _]

/-- The custom debug info of a version is that of its methods. -/
theorem AgreesAt.customInfo?_eq (agrees : AgreesAt version dump other) (token : Int) :
    dump.customInfo? version token = other.customInfo? version token := by
  unfold customInfo?
  rw [agrees token]

/-- Imports of C# are those of the methods of a version, forwards included. -/
theorem AgreesAt.csharpImports_eq (agrees : AgreesAt version dump other)
    (types? : Option TypeTable) (token : Int) :
    csharpImports dump types? token version = csharpImports other types? token version := by
  unfold csharpImports
  rw [agrees.source_eq]

/-- So are imports of Visual Basic. -/
theorem AgreesAt.basicImports?_eq (agrees : AgreesAt version dump other) (token : Int) :
    basicImports? dump token version = basicImports? other token version := by
  have strings : dump.importStrings? version = other.importStrings? version :=
    congrArg Import.MethodSource.importStrings? agrees.source_eq
  unfold basicImports?
  rw [strings]

variable {query : MethodQuery}

/-- So the part of an answer that depends on the language is the same. -/
theorem AgreesAt.languageInfo_eq (agrees : AgreesAt query.version dump other)
    (types? : Option TypeTable) (scopes : List Scope) :
    languageInfo dump types? query scopes = languageInfo other types? query scopes := by
  unfold languageInfo basicInfo csharpInfo
  rw [agrees.basicImports?_eq, agrees.csharpImports_eq, agrees.customInfo?_eq]

/-- Without portable metadata, the whole answer is the same. -/
theorem AgreesAt.nativeInfo_eq (agrees : AgreesAt query.version dump other)
    (types? : Option TypeTable) : nativeInfo dump types? query = nativeInfo other types? query := by
  unfold nativeInfo
  rw [agrees query.token]
  simp only [agrees.languageInfo_eq]

end Dump

/-- Dumps with the same portable metadata and the same methods of a version give the same answers
and the same errors to all queries about that version, whatever type table and decoder are given. -/
theorem version_isolated (version : Int) (dump other : Dump)
    (agrees : Dump.AgreesAt version dump other) (portable : dump.portable? = other.portable?)
    (types? : Option TypeTable) (token offset : Int) (visualBasic : Bool)
    (decoder? : Option PortableDecoder) :
    readMethodInfo dump types? ⟨token, version, offset, visualBasic⟩ decoder? =
      readMethodInfo other types? ⟨token, version, offset, visualBasic⟩ decoder? := by
  have native : nativeInfo dump types? ⟨token, version, offset, visualBasic⟩ =
      nativeInfo other types? ⟨token, version, offset, visualBasic⟩ := agrees.nativeInfo_eq types?
  unfold readMethodInfo
  rw [portable, native]

/-- Two versions of a method whose strings are those of another one. -/
def twoVersions : Dump where
  methods := [
    { token := 1, version := 1, importStrings? := some ["@2"] },
    { token := 2, version := 1, importStrings? := some ["*Old"] },
    { token := 1, version := 2, importStrings? := some ["@2"] },
    { token := 2, version := 2, importStrings? := some ["*New"] }]

/-- The second version of the other method is replaced. -/
def replacedVersion : Dump :=
  { twoVersions with
    methods := Dump.putMethod { token := 2, version := 2, importStrings? := some ["*Newer"] }
      twoVersions.methods }

/-- The second version of the first method is removed as well. -/
def editedVersions : Dump :=
  { replacedVersion with
    methods := replacedVersion.methods.filter fun method =>
      method.version = 1 || method.token = 2 }

/-- The query about the first version still leads to the first version of the other method, while
the second versions differ. -/
theorem editedVersions_isolated :
    Dump.AgreesAt 1 twoVersions editedVersions ∧
      twoVersions.portable? = editedVersions.portable? ∧
      readMethodInfo editedVersions none ⟨1, 1, 0, true⟩ =
        .ok { groups := [[], []], defaultNamespace := "Old" } ∧
      twoVersions.importStrings? 2 2 ≠ editedVersions.importStrings? 2 2 := by
  have replaced : Dump.AgreesAt 1 twoVersions replacedVersion :=
    Dump.agreesAt_putMethod twoVersions (by decide)
  have removed : Dump.AgreesAt 1 replacedVersion editedVersions := by
    refine Dump.agreesAt_filter replacedVersion fun method first => ?_
    rw [first]
    rfl
  have agrees := replaced.trans removed
  refine ⟨agrees, rfl, ?_, by decide⟩
  have scopes : twoVersions.scopes 1 1 = [] := by
    simp [Dump.scopes, Dump.method?, twoVersions, Scope.walk, Scope.walkFrom]
  rw [← version_isolated 1 twoVersions editedVersions agrees rfl, readMethodInfo_eq, scopes]
  rfl

end DebugLens
