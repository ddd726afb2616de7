import DebugLens.MethodInfo.Imports
import DebugLens.Proofs.Import.CSharpNotation
import DebugLens.Proofs.Import.Grouping
import DebugLens.Proofs.MethodInfo.RecordFields
import DebugLens.Proofs.Refusal

/-!
# The records of C# imports

Each nesting level of a C# method keeps its place and gives, in order, one record for each of its
strings that is a directive; strings that are none leave no trace. A record that imports a type
has the type as its target if there is a type table, and no name next to it; every other target is
named by a text. Without a type table, the string of a record is made up again from its fields.
The extern aliases are those strings that give an alias to an assembly whose display name can be
read.
-/
namespace DebugLens

/-- The directive that the fields of a record give, if its target is no type. -/
def ImportRecord.directive (record : ImportRecord) : Import.Directive where
  kind := record.kind
  alias? := record.alias?
  externAlias? := record.externAlias?
  target? := record.target.text?

/-- A record has a type as its target exactly if it imports a type and there is a type table, and
then it has no name next to it. -/
structure ImportRecord.IsResolved (types? : Option TypeTable) (record : ImportRecord) : Prop where
  /-- An imported type is the only target. -/
  typed : types?.isSome → record.kind = .typeMembers →
    record.target.type?.isSome ∧ record.target.text? = none
  /-- Any other target is no type. -/
  untyped : types? = none ∨ record.kind ≠ .typeMembers → record.target.type? = none

/-! ## Records of directives -/

namespace Import

/-- The type that a directive imports, if there is a type table to find it in. -/
def Directive.importedType? (types? : Option TypeTable) (directive : Directive) :
    Option TypeSymbol :=
  if directive.kind = .typeMembers then do
    let types ← types?
    let name ← directive.target?
    return types.resolve name
  else none

/-- The name of the target of a directive, unless the target is an imported type. -/
def Directive.targetName? (types? : Option TypeTable) (directive : Directive) : Option Text :=
  match directive.importedType? types? with
  | some _ => none
  | none => directive.target?

/-- The string is a C# directive. -/
def CSharp.accepts (text : Text) : Bool := (CSharp.read text).isOk

/-- The string gives an alias to an assembly whose display name can be read. -/
def CSharp.aliasesAssembly (text : Text) : Bool :=
  match CSharp.read text with
  | .ok directive =>
    directive.kind = .assembly && directive.alias?.isSome &&
      directive.target?.any fun target => (Assembly.readDisplayName target).isOk
  | .error _ => false

/-- A C# directive that imports a type names it. -/
theorem CSharp.WellDelimited.exists_target {directive : Directive}
    (delimited : CSharp.WellDelimited directive) (imports : directive.kind = .typeMembers) :
    ∃ name, directive.target? = some name := by
  cases delimited with
  | typeMembers undivided target => exact ⟨target, rfl⟩
  | externAlias name => contradiction
  | assembly undivided present => contradiction
  | members undivided target => contradiction
  | externMembers undivided targetUndivided present => contradiction

end Import

/-- The record has the fields of the directive that a C# string is. -/
def ImportRecord.IsOf (types? : Option TypeTable) (text : Text) (record : ImportRecord) : Prop :=
  ∃ directive, Import.CSharp.read text = .ok directive ∧
    ImportRecord.ofFields? directive.kind directive.alias? directive.externAlias?
      (directive.importedType? types?) (directive.targetName? types?) = some record

/-- The extern alias is the one that a C# string gives to an assembly. -/
def ExternAlias.IsOf (text : Text) (externAlias : ExternAlias) : Prop :=
  ∃ directive target, Import.CSharp.read text = .ok directive ∧ directive.kind = .assembly ∧
    directive.alias? = some externAlias.name ∧ directive.target? = some target ∧
    Assembly.readDisplayName target = .ok externAlias.assembly

/-- The fields of a directive never exclude each other. -/
theorem ofFields?_recordOfDirective (types? : Option TypeTable) (directive : Import.Directive) :
    ImportRecord.ofFields? directive.kind directive.alias? directive.externAlias?
        (directive.importedType? types?) (directive.targetName? types?) =
      some (recordOfDirective types? directive) := by
  obtain ⟨kind, alias?, externAlias?, target?, reach⟩ := directive
  cases kind <;> cases types? <;> cases target? <;> rfl

section Strings

variable {types? : Option TypeTable} {text : Text}

/-- A string gives a record exactly if it is a directive. -/
theorem isSome_csharpRecord? (types? : Option TypeTable) (text : Text) :
    (csharpRecord? types? text).isSome = Import.CSharp.accepts text := by
  unfold csharpRecord? Import.CSharp.accepts
  cases Import.CSharp.read text <;> rfl

/-- The record that is made of a string is the record of the string. -/
theorem isOf_of_csharpRecord? {record : ImportRecord}
    (made : csharpRecord? types? text = some record) : record.IsOf types? text := by
  unfold csharpRecord? at made
  cases found : Import.CSharp.read text with
  | error fault =>
    rw [found] at made
    contradiction
  | ok directive =>
    rw [found] at made
    obtain rfl := Option.some.inj made
    exact ⟨directive, found, ofFields?_recordOfDirective types? directive⟩

/-- A string gives an extern alias exactly if it gives an alias to a readable assembly. -/
theorem isSome_externAlias? (text : Text) :
    (externAlias? text).isSome = Import.CSharp.aliasesAssembly text := by
  unfold externAlias? Import.CSharp.aliasesAssembly
  cases Import.CSharp.read text with
  | error fault => rfl
  | ok directive =>
    obtain ⟨kind, alias?, externAlias?, target?, reach⟩ := directive
    cases alias? with
    | none => cases kind <;> rfl
    | some name =>
      cases target? with
      | none => cases kind <;> rfl
      | some target =>
        cases kind with
        | assembly =>
          show (Option.bind (Assembly.readDisplayName target).toOption _).isSome =
            (Assembly.readDisplayName target).isOk
          cases Assembly.readDisplayName target <;> rfl
        | _ => rfl

/-- The extern alias that is made of a string is the extern alias of the string. -/
theorem isOf_of_externAlias? {externAlias : ExternAlias}
    (made : externAlias? text = some externAlias) : externAlias.IsOf text := by
  obtain ⟨directive, found, made⟩ := Option.bind_eq_some_iff.mp made
  split at made
  · next name target imports named targeted =>
    obtain ⟨assembly, readable, made⟩ := Option.bind_eq_some_iff.mp made
    obtain rfl := Option.some.inj made
    exact ⟨directive, target, toOption_eq_some_iff.mp found, imports, named, targeted,
      toOption_eq_some_iff.mp readable⟩
  · contradiction

/-- The target of the record of a string is a type exactly where it has to be. -/
theorem ImportRecord.IsOf.isResolved {record : ImportRecord} (isOf : record.IsOf types? text) :
    record.IsResolved types? := by
  obtain ⟨directive, found, made⟩ := isOf
  obtain ⟨kind, -, -, type, name⟩ := ImportRecord.ofFields?_eq_some_iff.mp made
  unfold Import.Directive.targetName? at name
  constructor
  · intro given imports
    obtain ⟨types, rfl⟩ := Option.isSome_iff_exists.mp given
    rw [kind] at imports
    obtain ⟨target, targeted⟩ := (Import.CSharp.read_exact found).1.exists_target imports
    have imported : directive.importedType? (some types) = some (types.resolve target) := by
      rw [Import.Directive.importedType?, if_pos imports, targeted]
      rfl
    rw [imported] at type name
    exact ⟨by rw [type]; rfl, name⟩
  · intro other
    rw [type, Import.Directive.importedType?]
    rcases other with rfl | other
    · exact ite_self none
    · rw [kind] at other
      exact if_neg other

/-- Without a type table, the fields of the record of a string are written as that string. -/
theorem ImportRecord.IsOf.write {record : ImportRecord} (isOf : record.IsOf none text) :
    Import.CSharp.write record.directive = .ok text := by
  obtain ⟨directive, found, made⟩ := isOf
  obtain ⟨kind, named, aliased, -, target⟩ := ImportRecord.ofFields?_eq_some_iff.mp made
  have untyped : directive.importedType? none = none := ite_self none
  rw [Import.Directive.targetName?, untyped] at target
  have same : record.directive = { directive with reach := .unspecified } := by
    rw [ImportRecord.directive, kind, named, aliased, target]
  rw [same]
  exact (Import.CSharp.read_exact found).2

end Strings

/-! ## Imports of a method -/

/-- The records of the strings of one nesting level. -/
theorem forall₂_csharpRecord? (types? : Option TypeTable) (group : List Text) :
    List.Forall₂ (fun text record => ImportRecord.IsOf types? text record)
      (group.filter Import.CSharp.accepts) (group.filterMap (csharpRecord? types?)) :=
  forall₂_filter_filterMap (isSome_csharpRecord? types?)
    (fun _ _ made => isOf_of_csharpRecord? made) group

/-- Grouped strings give groups of records and extern aliases. -/
theorem csharpImports_of_grouped {dump : Dump} (types? : Option TypeTable) {token version : Int}
    {strings : Import.GroupedStrings}
    (grouped : Import.groupedStrings (dump.source version) token = .ok (some strings)) :
    csharpImports dump types? token version = .ok {
      groups := strings.groups.map fun group => group.filterMap (csharpRecord? types?)
      externs := strings.externAliases.filterMap externAlias? } := by
  rw [csharpImports, grouped]
  rfl

/-- The imports of a C# method whose strings can be grouped are always there. There is one group
of records for each group of strings, with the records of the accepted strings in order; types are
resolved if there is a type table, and without one the strings are made up again from the records.
The extern aliases are, in order, those of the strings that name a readable assembly. -/
theorem csharpImports_exact (dump : Dump) (types? : Option TypeTable) (token version : Int)
    (strings : Import.GroupedStrings)
    (grouped : Import.groupedStrings (dump.source version) token = .ok (some strings)) :
    ∃ imports, csharpImports dump types? token version = .ok imports ∧
      imports.groups.length = strings.groups.length ∧
      List.Forall₂ (fun group records =>
        List.Forall₂ (fun text record => ImportRecord.IsOf types? text record)
          (group.filter Import.CSharp.accepts) records) strings.groups imports.groups ∧
      (∀ records ∈ imports.groups, ∀ record ∈ records, record.IsResolved types?) ∧
      (types? = none → List.Forall₂ (fun group records =>
        List.Forall₂ (fun text record => Import.CSharp.write record.directive = .ok text)
          (group.filter Import.CSharp.accepts) records) strings.groups imports.groups) ∧
      List.Forall₂ (fun text externAlias => ExternAlias.IsOf text externAlias)
        (strings.externAliases.filter Import.CSharp.aliasesAssembly) imports.externs := by
  refine ⟨_, csharpImports_of_grouped types? grouped, List.length_map _, ?_, ?_, ?_, ?_⟩
  · rw [List.forall₂_map_right_iff, List.forall₂_same]
    exact fun group _ => forall₂_csharpRecord? types? group
  · intro records listed record inside
    obtain ⟨group, -, rfl⟩ := List.mem_map.mp listed
    obtain ⟨text, -, made⟩ := List.mem_filterMap.mp inside
    exact (isOf_of_csharpRecord? made).isResolved
  · rintro rfl
    rw [List.forall₂_map_right_iff, List.forall₂_same]
    exact fun group _ => (forall₂_csharpRecord? none group).imp fun _ _ isOf => isOf.write
  · exact forall₂_filter_filterMap isSome_externAlias?
      (fun _ _ made => isOf_of_externAlias? made) strings.externAliases

/-- A method with two nesting levels, of which the first one is empty. -/
def mixedImports : Dump where
  methods := [{
    token := 1, version := 1
    customInfo? := some [4, 0, 0, 0, 4, 0, 0, 0, 14, 0, 0, 0, 2, 0, 0, 0, 3, 0]
    importStrings? := some
      ["USystem", "?", "TSystem.Int32", "Zlib System.Core", "Zlib", "Zlib ,"] }]

/-- Its strings in groups. -/
def mixedStrings : Import.GroupedStrings where
  groups := [[], ["USystem", "?", "TSystem.Int32"]]
  externAliases := ["Zlib System.Core", "Zlib", "Zlib ,"]

/-- The outline of the method with mixed imports: an empty group and one of three strings. -/
theorem outlineOf_mixedImports :
    Import.outlineOf (mixedImports.source 1) 1 =
      .ok (some { token := 1, sizes? := some [0, 3] }) := by
  have scanned : CustomInfo.scan [4, 0, 0, 0, 4, 0, 0, 0, 14, 0, 0, 0, 2, 0, 0, 0, 3, 0] =
      ⟨[⟨0, 4, [2, 0, 0, 0, 3, 0]⟩], none⟩ :=
    CustomInfo.scanRecords_eq_iff.mpr
      ⟨[⟨4, 0, 0, 0, [2, 0, 0, 0, 3, 0], by decide, by decide⟩], [], ⟨by decide, by decide⟩,
        by decide⟩
  have visited : Import.Outline.visit (mixedImports.source 1) { token := 1 } =
      .ok (some ({ token := 1, sizes? := some [0, 3] }, false)) :=
    Import.Outline.visit_of_scan rfl (List.cons_ne_nil _ _) scanned
  exact bind_eq_ok_iff.mpr ⟨_, visited, rfl⟩

/-- The strings of that method in groups. -/
theorem groupedStrings_mixedImports :
    Import.groupedStrings (mixedImports.source 1) 1 = .ok (some mixedStrings) := by
  rw [Import.groupedStrings_of_outline outlineOf_mixedImports rfl]
  rfl

/-- The string that is no directive leaves no record, and of the extern aliases the one without an
assembly and the one whose assembly has no name leave none. -/
theorem csharpImports_mixedImports :
    Import.groupedStrings (mixedImports.source 1) 1 = .ok (some mixedStrings) ∧
      ∃ space type lib, csharpImports mixedImports (some {}) 1 1 =
          .ok { groups := [[], [space, type]], externs := [lib] } ∧
        space.IsOf (some {}) (Text.ofString "USystem") ∧
        type.IsOf (some {}) (Text.ofString "TSystem.Int32") ∧ type.IsResolved (some {}) ∧
        lib.IsOf (Text.ofString "Zlib System.Core") := by
  obtain ⟨⟨groups, externs⟩, returned, -, records, resolved, -, aliases⟩ :=
    csharpImports_exact mixedImports (some {}) 1 1 mixedStrings groupedStrings_mixedImports
  have readable : mixedStrings.externAliases.filter Import.CSharp.aliasesAssembly =
      [Text.ofString "Zlib System.Core"] := by decide
  have accepted : (mixedStrings.groups.map fun group => group.filter Import.CSharp.accepts) =
      [[], [Text.ofString "USystem", Text.ofString "TSystem.Int32"]] := by decide
  rw [readable] at aliases
  rw [← List.forall₂_map_left_iff, accepted] at records
  simp only [List.forall₂_cons_left_iff, List.forall₂_nil_left_iff] at records aliases
  obtain ⟨_, _, rfl, ⟨_, _, ⟨space, _, ofSpace, ⟨type, _, ofType, rfl, rfl⟩, rfl⟩, rfl, rfl⟩,
    rfl⟩ := records
  obtain ⟨lib, _, ofLib, rfl, rfl⟩ := aliases
  have typeResolved := resolved _ (.tail _ (.head _)) type (.tail _ (.head _))
  exact ⟨groupedStrings_mixedImports, space, type, lib, returned, ofSpace, ofType, typeResolved,
    ofLib⟩

end DebugLens
