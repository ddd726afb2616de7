import DebugLens.Import.CSharp
import DebugLens.Proofs.Import.Fields

/-!
# Reading and writing C# directives

A directive is well delimited if its fields can be told apart in its string: a field in front of
a separator has no separator in it, and one behind a separator is not empty. Reading and writing
are inverse to each other between the strings that are read at all and the directives that are
well delimited.
-/
namespace DebugLens.Import

namespace CSharp

/-- The text has no separator in it. -/
def Undivided (text : Text) : Prop := CodePoint.char separator ∉ text

instance : DecidablePred Undivided :=
  fun text => inferInstanceAs (Decidable (CodePoint.char separator ∉ text))

/-- The fields of a directive can be told apart in its string. -/
inductive WellDelimited : Directive → Prop where
  /-- An extern alias, whatever its name. -/
  | externAlias (name : Text) : WellDelimited { kind := .assembly, alias? := some name }
  /-- An extern alias with its assembly. -/
  | assembly {name : Text} (undivided : Undivided name) {target : Text} (present : target ≠ []) :
    WellDelimited { kind := .assembly, alias? := some name, target? := some target }
  /-- A namespace. -/
  | members {alias? : Option Text} (undivided : ∀ name ∈ alias?, Undivided name)
    (target : Text) :
    WellDelimited { kind := .namespaceMembers, alias?, target? := some target }
  /-- A namespace of an assembly with an extern alias. -/
  | externMembers {alias? : Option Text} (undivided : ∀ name ∈ alias?, Undivided name)
    {target : Text} (targetUndivided : Undivided target)
    {externAlias : Text} (present : externAlias ≠ []) :
    WellDelimited
      { kind := .namespaceMembers, alias?, externAlias? := some externAlias,
        target? := some target }
  /-- A type. -/
  | typeMembers {alias? : Option Text} (undivided : ∀ name ∈ alias?, Undivided name)
    (target : Text) :
    WellDelimited { kind := .typeMembers, alias?, target? := some target }

/-- The fields after a tag are those around the first separator. -/
theorem taggedFields_eq_ok_iff {tag : Char} {rest before after : Text} :
    taggedFields tag rest = .ok (before, after) ↔
      rest = before ++ .char separator :: after ∧ Undivided before ∧ after ≠ [] := by
  rw [Undivided, ← fieldsAt?_eq_some_iff]
  unfold taggedFields
  cases fieldsAt? separator rest <;> simp

/-- Two fields written after a tag are read back. -/
theorem taggedFields_append (tag : Char) {before after : Text} (undivided : Undivided before)
    (present : after ≠ []) :
    taggedFields tag (before ++ .char separator :: after) = .ok (before, after) :=
  taggedFields_eq_ok_iff.mpr ⟨rfl, undivided, present⟩

/-- What is read on from the fields after a tag is read on from two fields that are told apart. -/
theorem fields_of_bind {tag : Char} {rest : Text}
    {next : Text × Text → Except DirectiveError Directive} {directive : Directive}
    (found : (taggedFields tag rest >>= next) = .ok directive) :
    ∃ before after, rest = before ++ .char separator :: after ∧ Undivided before ∧ after ≠ [] ∧
      next (before, after) = .ok directive := by
  cases fields : taggedFields tag rest with
  | error fault =>
    rw [fields] at found
    contradiction
  | ok pair =>
    rw [fields] at found
    obtain ⟨joined, undivided, present⟩ := taggedFields_eq_ok_iff.mp fields
    exact ⟨pair.1, pair.2, joined, undivided, present, found⟩

/-- A directive read behind an alias is well delimited, and its string is the alias and what
follows it. -/
theorem readAliased_exact {whole name target : Text} {directive : Directive}
    (found : readAliased whole name target = .ok directive) (undivided : Undivided name) :
    WellDelimited directive ∧ write directive = .ok (writeFields 'A' name target) := by
  have clear : ∀ other ∈ some name, Undivided other := by
    rintro other ⟨⟩
    exact undivided
  unfold readAliased at found
  split at found
  · contradiction
  · obtain rfl := Except.ok.inj found
    exact ⟨.members clear _, rfl⟩
  · obtain rfl := Except.ok.inj found
    exact ⟨.typeMembers clear _, rfl⟩
  · next rest =>
    obtain ⟨target, externAlias, rfl, targetUndivided, present, made⟩ := fields_of_bind found
    obtain rfl := Except.ok.inj made
    exact ⟨.externMembers clear targetUndivided present, rfl⟩
  · contradiction

/-- A directive read from a string is well delimited, and that string is the one written for
it. -/
theorem read_exact {text : Text} {directive : Directive} (found : read text = .ok directive) :
    WellDelimited directive ∧ write directive = .ok text := by
  have unnamed : ∀ name ∈ (none : Option Text), Undivided name := fun _ absent => nomatch absent
  unfold read at found
  split at found
  · contradiction
  · obtain rfl := Except.ok.inj found
    exact ⟨.members unnamed _, rfl⟩
  · next rest =>
    obtain ⟨target, externAlias, rfl, undivided, present, made⟩ := fields_of_bind found
    obtain rfl := Except.ok.inj made
    exact ⟨.externMembers unnamed undivided present, rfl⟩
  · obtain rfl := Except.ok.inj found
    exact ⟨.typeMembers unnamed _, rfl⟩
  · next rest =>
    obtain ⟨name, target, rfl, undivided, -, made⟩ := fields_of_bind found
    exact readAliased_exact made undivided
  · obtain rfl := Except.ok.inj found
    exact ⟨.externAlias _, rfl⟩
  · next rest =>
    obtain ⟨name, target, rfl, undivided, present, made⟩ := fields_of_bind found
    obtain rfl := Except.ok.inj made
    exact ⟨.assembly undivided present, rfl⟩
  · contradiction

/-- An extern alias with its assembly is read back. -/
theorem read_writeFields_assembly {name target : Text} (undivided : Undivided name)
    (present : target ≠ []) :
    read (writeFields 'Z' name target) =
      .ok { kind := .assembly, alias? := some name, target? := some target } := by
  have fields := taggedFields_append 'Z' undivided present
  simp only [writeFields, List.cons_append, read]
  rw [fields]
  rfl

/-- A namespace of an assembly is read back. -/
theorem read_writeFields_externMembers {target externAlias : Text} (undivided : Undivided target)
    (present : externAlias ≠ []) :
    read (writeFields 'E' target externAlias) =
      .ok { kind := .namespaceMembers, externAlias? := some externAlias,
            target? := some target } := by
  have fields := taggedFields_append 'E' undivided present
  simp only [writeFields, List.cons_append, read]
  rw [fields]
  rfl

/-- A string with an alias is read by what follows the alias. -/
theorem read_writeFields_alias {name target : Text} (undivided : Undivided name)
    (present : target ≠ []) :
    read (writeFields 'A' name target) =
      readAliased (writeFields 'A' name target) name target := by
  have fields := taggedFields_append 'A' undivided present
  simp only [writeFields, List.cons_append, read]
  rw [fields]
  rfl

/-- A namespace of an assembly is read back behind an alias. -/
theorem readAliased_externMembers (whole name : Text) {target externAlias : Text}
    (undivided : Undivided target) (present : externAlias ≠ []) :
    readAliased whole name (writeFields 'E' target externAlias) =
      .ok { kind := .namespaceMembers, alias? := some name,
            externAlias? := some externAlias, target? := some target } := by
  have fields := taggedFields_append 'E' undivided present
  simp only [writeFields, List.cons_append, readAliased]
  rw [fields]
  rfl

/-- A well delimited directive has a string, and is read from it. -/
theorem write_exact {directive : Directive} (delimited : WellDelimited directive) :
    ∃ text, write directive = .ok text ∧ read text = .ok directive := by
  cases delimited with
  | externAlias name => exact ⟨_, rfl, rfl⟩
  | assembly undivided present => exact ⟨_, rfl, read_writeFields_assembly undivided present⟩
  | @members alias? undivided target =>
    cases alias? with
    | none => exact ⟨_, rfl, rfl⟩
    | some name =>
      refine ⟨_, rfl, ?_⟩
      exact read_writeFields_alias (undivided name rfl) (List.cons_ne_nil _ _)
  | @externMembers alias? undivided target targetUndivided externAlias present =>
    cases alias? with
    | none => exact ⟨_, rfl, read_writeFields_externMembers targetUndivided present⟩
    | some name =>
      refine ⟨writeFields 'A' name (writeFields 'E' target externAlias), rfl, ?_⟩
      have further : writeFields 'E' target externAlias ≠ [] := List.cons_ne_nil _ _
      rw [read_writeFields_alias (undivided name rfl) further]
      exact readAliased_externMembers _ name targetUndivided present
  | @typeMembers alias? undivided target =>
    cases alias? with
    | none => exact ⟨_, rfl, rfl⟩
    | some name =>
      refine ⟨_, rfl, ?_⟩
      exact read_writeFields_alias (undivided name rfl) (List.cons_ne_nil _ _)

/-- A directive is read from a string exactly if it is well delimited and the string is the one
written for it, and every well delimited directive has a string. -/
theorem read_write_inverse :
    (∀ text directive, read text = .ok directive ↔
      WellDelimited directive ∧ write directive = .ok text) ∧
    ∀ directive, WellDelimited directive →
      ∃ text, write directive = .ok text ∧ read text = .ok directive := by
  refine ⟨fun text directive => ⟨read_exact, ?_⟩, fun directive => write_exact⟩
  rintro ⟨delimited, written⟩
  obtain ⟨other, otherWritten, found⟩ := write_exact delimited
  obtain rfl := Except.ok.inj (written.symm.trans otherWritten)
  exact found

/-- A namespace of an assembly, under an alias. Its extern alias has a separator in it. -/
def aliasedExtern : Directive where
  kind := .namespaceMembers
  alias? := some [.char 'n']
  externAlias? := some [.char 'v', .char ' ', .char '2']
  target? := some [.char 'A', .char '.', .char 'B']

/-- The directive with both an alias and an extern alias is read back from `An EA.B v 2`. -/
theorem read_aliasedExtern :
    WellDelimited aliasedExtern ∧ write aliasedExtern = .ok (Text.ofString "An EA.B v 2") ∧
      read (Text.ofString "An EA.B v 2") = .ok aliasedExtern := by
  have undivided : ∀ name ∈ aliasedExtern.alias?, Undivided name := by
    rintro name ⟨⟩
    decide
  have delimited : WellDelimited aliasedExtern :=
    .externMembers undivided (by decide) (List.cons_ne_nil _ _)
  have written : write aliasedExtern = .ok (Text.ofString "An EA.B v 2") := by decide
  exact ⟨delimited, written, (read_write_inverse.1 _ _).mpr ⟨delimited, written⟩⟩

end CSharp

end DebugLens.Import
