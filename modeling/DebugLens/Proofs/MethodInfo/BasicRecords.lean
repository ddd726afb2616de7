import DebugLens.MethodInfo.Query
import DebugLens.Proofs.Import.ForwardedStrings
import DebugLens.Proofs.Import.VisualBasicNotation
import DebugLens.Proofs.MethodInfo.RecordFields
import DebugLens.Proofs.Refusal

/-!
# The records of Visual Basic imports

The directives among the strings that apply to a Visual Basic method are divided between the project
and the file: each one that imports something gives one record, in the group that its
reach tells, and both groups keep the order of the strings. The last string that gives a default
namespace counts.
-/
namespace DebugLens

namespace Import

/-! ## Directives -/

/-- The directive imports something. -/
def Directive.imports (directive : Directive) : Bool :=
  directive.kind ≠ .defunct && directive.kind ≠ .defaultNamespace

/-- The directive reaches through the whole project. -/
def Directive.isProjectWide (directive : Directive) : Bool := directive.reach = .project

namespace VisualBasic

/-- The string is a directive with a property. -/
def readsAs (holds : Directive → Bool) (text : Text) : Bool := (read text).toOption.any holds

/-- The directives among strings. -/
def directivesOf (strings : List Text) : List Directive :=
  strings.filterMap fun text => (read text).toOption

/-- The strings that give a default namespace are those that begin with its mark. -/
theorem filter_directivesOf_default (strings : List Text) :
    ((directivesOf strings).filter fun directive => directive.kind = .defaultNamespace) =
      (strings.filter fun text => text.head? = some (.char '*')).map fun text =>
        { kind := .defaultNamespace, target? := some text.tail } := by
  rw [directivesOf, List.filter_filterMap]
  refine filterMap_eq_map_filter (fun text => ?_) strings
  by_cases marked : text.head? = some (.char '*')
  · obtain ⟨target, rfl⟩ := List.head?_eq_some_iff.mp marked
    rfl
  · rw [if_neg marked]
    cases found : read text with
    | error fault => rfl
    | ok directive =>
      have other : directive.kind ≠ .defaultNamespace := by
        intro kind
        have spelled := (read_spells found).written
        rw [kind] at spelled
        exact marked (by rw [← spelled]; rfl)
      simp [Except.toOption, Option.filter, other]

end VisualBasic

end Import

/-! ## Records -/

/-- The record has the fields of the directive that a Visual Basic string is. -/
def ImportRecord.IsOfBasic (text : Text) (record : ImportRecord) : Prop :=
  ∃ directive, Import.VisualBasic.read text = .ok directive ∧
    ImportRecord.ofFields? directive.kind directive.alias? none none directive.target? =
      some record

/-- The record of a Visual Basic directive. -/
def basicRecord (directive : Import.Directive) : ImportRecord where
  kind := directive.kind
  alias? := directive.alias?
  target := directive.target?.elim .unnamed .text

/-- The record of a directive has its fields. -/
theorem ofFields?_basicRecord (directive : Import.Directive) :
    ImportRecord.ofFields? directive.kind directive.alias? none none directive.target? =
      some (basicRecord directive) := by
  unfold basicRecord
  cases directive.target? <;> rfl

/-- The strings with a property give, in order, the records of the directives with it. -/
theorem forall₂_basicRecord (holds : Import.Directive → Bool) (strings : List Text) :
    List.Forall₂ ImportRecord.IsOfBasic (strings.filter (Import.VisualBasic.readsAs holds))
      (((Import.VisualBasic.directivesOf strings).filter holds).map basicRecord) := by
  rw [Import.VisualBasic.directivesOf, List.filter_filterMap, List.map_filterMap]
  refine forall₂_filter_filterMap (fun text => ?_) (fun text record made => ?_) strings
  · unfold Import.VisualBasic.readsAs
    cases (Import.VisualBasic.read text).toOption with
    | none => rfl
    | some directive => cases passes : holds directive <;> simp [Option.filter, passes]
  · obtain ⟨directive, kept, rfl⟩ := Option.map_eq_some_iff.mp made
    obtain ⟨found, -⟩ := Option.filter_eq_some_iff.mp kept
    exact ⟨directive, toOption_eq_some_iff.mp found, ofFields?_basicRecord directive⟩

namespace BasicImports

/-- Imports with those of further directives behind them. -/
def extend (imports : BasicImports) (directives : List Import.Directive) : BasicImports where
  file := imports.file ++
    (directives.filter fun directive => directive.imports && !directive.isProjectWide).map
      basicRecord
  project := imports.project ++
    (directives.filter fun directive => directive.imports && directive.isProjectWide).map
      basicRecord
  defaultNamespace :=
    (directives.filter fun directive => directive.kind = .defaultNamespace).getLast?.elim
      imports.defaultNamespace fun directive => directive.target?.getD ""

/-- Without further directives nothing changes. -/
theorem extend_nil (imports : BasicImports) : imports.extend [] = imports := by
  simp [extend]

/-- Directives may be added in two parts. -/
theorem extend_append (imports : BasicImports) (directives others : List Import.Directive) :
    imports.extend (directives ++ others) = (imports.extend directives).extend others := by
  unfold extend
  simp only [List.filter_append, List.map_append, List.append_assoc, List.getLast?_append]
  congr 1
  cases (others.filter fun directive => directive.kind = .defaultNamespace).getLast? <;> rfl

/-- One more directive is put behind the others of its group, or replaces the default
namespace. -/
theorem add_eq (imports : BasicImports) (directive : Import.Directive) :
    imports.add directive = imports.extend [directive] := by
  obtain ⟨kind, alias?, externAlias?, target?, reach⟩ := directive
  cases kind with
  | defunct => simp [add, extend, Import.Directive.imports]
  | defaultNamespace => simp [add, extend, Import.Directive.imports]
  | _ =>
    cases reach <;> cases target? <;>
      simp [add, extend, Import.Directive.imports, Import.Directive.isProjectWide, basicRecord]

/-- Directives that are added one by one are added together. -/
theorem foldl_add (imports : BasicImports) (directives : List Import.Directive) :
    directives.foldl BasicImports.add imports = imports.extend directives := by
  induction directives generalizing imports with
  | nil => exact imports.extend_nil.symm
  | cons directive directives hypothesis =>
    rw [List.foldl_cons, hypothesis, add_eq, ← extend_append]
    rfl

/-- The imports of strings are those of the directives among them. -/
theorem ofStrings_eq (strings : List Text) :
    ofStrings strings = ({} : BasicImports).extend (Import.VisualBasic.directivesOf strings) :=
  foldl_add {} _

/-- Strings are divided into imports of the project and of the file, and a default namespace. -/
structure Divides (strings : List Text) (imports : BasicImports) : Prop where
  /-- The group of the project has the records of what reaches through the project, in order. -/
  project : List.Forall₂ ImportRecord.IsOfBasic
    (strings.filter (Import.VisualBasic.readsAs fun directive =>
      directive.imports && directive.isProjectWide)) imports.project
  /-- The group of the file has the records of everything else that is imported, in order. -/
  file : List.Forall₂ ImportRecord.IsOfBasic
    (strings.filter (Import.VisualBasic.readsAs fun directive =>
      directive.imports && !directive.isProjectWide)) imports.file
  /-- Together, the groups have one record of everything that is imported. -/
  complete : ∃ records,
    List.Forall₂ ImportRecord.IsOfBasic
      (strings.filter (Import.VisualBasic.readsAs Import.Directive.imports)) records ∧
    (imports.project ++ imports.file).Perm records
  /-- The last string with the mark of a default namespace gives it. -/
  defaultNamespace : imports.defaultNamespace =
    (strings.filter fun text => text.head? = some (.char '*')).getLast?.elim [] List.tail

/-- The records of what reaches through the project and of everything else are the records of
all that is imported. -/
theorem perm_basicRecord (directives : List Import.Directive) :
    ((directives.filter fun directive => directive.imports && directive.isProjectWide).map
        basicRecord ++
      (directives.filter fun directive => directive.imports && !directive.isProjectWide).map
        basicRecord).Perm
      ((directives.filter Import.Directive.imports).map basicRecord) := by
  rw [← List.map_append]
  apply List.Perm.map
  have parts := List.filter_append_perm Import.Directive.isProjectWide
    (directives.filter Import.Directive.imports)
  simp only [List.filter_filter] at parts
  simpa only [Bool.and_comm] using parts

/-- The directives of strings are divided between the project and the file. -/
theorem ofStrings_divides (strings : List Text) : Divides strings (ofStrings strings) := by
  rw [ofStrings_eq]
  constructor
  · exact forall₂_basicRecord _ strings
  · exact forall₂_basicRecord _ strings
  · exact ⟨_, forall₂_basicRecord _ strings, perm_basicRecord _⟩
  · show (((Import.VisualBasic.directivesOf strings).filter _).getLast?).elim _ _ = _
    rw [Import.VisualBasic.filter_directivesOf_default, List.getLast?_map]
    cases (strings.filter fun text => text.head? = some (.char '*')).getLast? <;> rfl

end BasicImports

/-- The imports of a Visual Basic method are two groups and a default namespace. -/
theorem languageInfo_of_basicImports {dump : Dump} {query : MethodQuery} {imports : BasicImports}
    (types? : Option TypeTable) (scopes : List Scope) (visualBasic : query.visualBasic = true)
    (found : basicImports? dump query.token query.version = .ok (some imports)) :
    languageInfo dump types? query scopes =
      .ok { groups := [imports.file, imports.project],
            defaultNamespace := imports.defaultNamespace } := by
  rw [languageInfo, if_pos visualBasic, basicInfo, found]
  rfl

/-- If strings apply to a Visual Basic method, its imports are two groups, of the file and of the
project, between which the directives of these strings are divided, and the default namespace. -/
theorem basicImports_divided (dump : Dump) (token version : Int) (own strings : List Text)
    (found : dump.importStrings? version token = some own)
    (applies : Import.Applies (dump.importStrings? version) own strings) :
    ∃ imports, basicImports? dump token version = .ok (some imports) ∧
      BasicImports.Divides strings imports ∧
      ∀ types? offset scopes,
        languageInfo dump types? ⟨token, version, offset, true⟩ scopes =
          .ok { groups := [imports.file, imports.project],
                defaultNamespace := imports.defaultNamespace } := by
  have taken := Import.visualBasicStrings_of_applies found applies
  have made : basicImports? dump token version = .ok (some (BasicImports.ofStrings strings)) := by
    rw [basicImports?, taken]
    rfl
  refine ⟨_, made, BasicImports.ofStrings_divides strings, fun types? offset scopes => ?_⟩
  exact languageInfo_of_basicImports types? scopes rfl made

/-- Strings of a method, the first of which names a method that is not there. -/
def takenStrings : List Text :=
  ["@9", "*Root", "@P:System", "&Old", "@FA:a=B", "@FA:a", "@PT:X", "*Main", "@F:Y"]

/-- Strings of a method, the first of which names the one with the strings above. -/
def ownStrings : List Text := ["@002", "@P:Lost"]

/-- A method that takes the strings of another one. -/
def borrowedImports : Dump where
  methods := [
    { token := 1, version := 1, importStrings? := some ownStrings },
    { token := 2, version := 1, importStrings? := some takenStrings }]

/-- The own strings are not looked at. In the strings that are taken, the one that names a method
is a directive like any other one, and the last default namespace replaces the first one. -/
theorem borrowedImports_divided :
    borrowedImports.importStrings? 1 1 = some ownStrings ∧
      Import.Applies (borrowedImports.importStrings? 1) ownStrings takenStrings ∧
      ∃ imports, basicImports? borrowedImports 1 1 = .ok (some imports) ∧
        List.Forall₂ ImportRecord.IsOfBasic ["@P:System", "@PT:X"] imports.project ∧
        List.Forall₂ ImportRecord.IsOfBasic ["@9", "@FA:a=B", "@F:Y"] imports.file ∧
        imports.defaultNamespace = Text.ofString "Main" := by
  have found : borrowedImports.importStrings? 1 1 = some ownStrings := by decide
  have numbered : Import.IsNumbered "@002" ['0', '0', '2'] :=
    ⟨rfl, List.cons_ne_nil _ _, List.all_eq_true.mp rfl⟩
  have applies : Import.Applies (borrowedImports.importStrings? 1) ownStrings takenStrings :=
    .forwarded numbered (by decide) (by decide)
  obtain ⟨imports, made, divides, -⟩ := basicImports_divided borrowedImports 1 1 _ _ found applies
  have wide : takenStrings.filter (Import.VisualBasic.readsAs fun directive =>
      directive.imports && directive.isProjectWide) =
        [Text.ofString "@P:System", Text.ofString "@PT:X"] := by decide
  have narrow : takenStrings.filter (Import.VisualBasic.readsAs fun directive =>
      directive.imports && !directive.isProjectWide) =
        [Text.ofString "@9", Text.ofString "@FA:a=B", Text.ofString "@F:Y"] := by decide
  refine ⟨found, applies, imports, made, ?_, ?_, ?_⟩
  · exact wide ▸ divides.project
  · exact narrow ▸ divides.file
  · rw [divides.defaultNamespace]
    decide

end DebugLens
