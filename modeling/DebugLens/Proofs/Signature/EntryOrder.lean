import DebugLens.MethodInfo.Query
import DebugLens.Proofs.Refusal
import Mathlib.Data.List.Induction

/-!
# The order of a type table

An entry looks its underlying type up among the entries that stand before it. If no entry names
another one, or itself, as its underlying type, what is looked up is never found there, so each
entry gives the type that it would give by itself. Then the table does not depend on the order of
its entries, and neither does anything that is looked up in it. Whether an entry can be read at all
does not depend on the others.
-/
namespace DebugLens

namespace TypeTable

/-! ## What a table is for -/

/-- Two tables hold the same types under all tokens and under all names. -/
structure Alike (table other : TypeTable) : Prop where
  /-- The types under tokens. -/
  byToken : ∀ token, table.byToken.lookup token = other.byToken.lookup token
  /-- The types under names. -/
  byName : ∀ name, table.byName.lookup name = other.byName.lookup name

variable {table other : TypeTable}

/-- Signatures are decoded with the types under tokens. -/
theorem Alike.tokens_eq (alike : Alike table other) : table.tokens = other.tokens :=
  funext alike.byToken

/-- Serialized names are resolved with the types under names. -/
theorem Alike.resolve_eq (alike : Alike table other) : table.resolve = other.resolve := by
  funext name
  simp only [resolve, alike.byName]

/-- A constant gets the same symbol. -/
theorem Alike.constantSymbol?_eq (alike : Alike table other) (flags : List (Text × FlagList))
    (declaration : ConstantDeclaration) :
    table.constantSymbol? flags declaration = other.constantSymbol? flags declaration := by
  unfold constantSymbol? constantType?
  rw [alike.tokens_eq]

/-- The constants of scopes get the same symbols. -/
theorem Alike.constantSymbols_eq (alike : Alike table other) (scopes : List Scope)
    (flags : List (Text × FlagList)) :
    table.constantSymbols scopes flags = other.constantSymbols scopes flags := by
  unfold constantSymbols
  induction scopes.flatMap Scope.constants with
  | nil => rfl
  | cons declaration declarations hypothesis =>
    rw [constantSymbolsOf, constantSymbolsOf, alike.constantSymbol?_eq, hypothesis]

/-- Imports of C# get the same types. -/
theorem Alike.csharpImports_eq (alike : Alike table other) (dump : Dump) (token version : Int) :
    csharpImports dump (some table) token version =
      csharpImports dump (some other) token version := by
  have records : recordOfDirective (some table) = recordOfDirective (some other) := by
    funext ⟨kind, _, _, target?, _⟩
    cases kind <;> cases target? <;> simp [recordOfDirective, alike.resolve_eq]
  unfold csharpImports csharpRecord?
  rw [records]

/-- Without a decoder of portable metadata, an answer depends only on what the table holds. -/
theorem Alike.readMethodInfo_eq (alike : Alike table other) (dump : Dump) (query : MethodQuery) :
    readMethodInfo dump (some table) query = readMethodInfo dump (some other) query := by
  have native : nativeInfo dump (some table) query = nativeInfo dump (some other) query := by
    unfold nativeInfo languageInfo csharpInfo constantsIn
    simp only [alike.csharpImports_eq, alike.constantSymbols_eq]
  unfold readMethodInfo
  rw [native]
  cases dump.portable? <;> rfl

/-! ## What an entry adds -/

/-- What an entry gives as its name. -/
def givenName? (entry : TypeEntry) : Option Json :=
  (Json.member? entry "name").filter Json.isGiven

/-- What an entry gives as its underlying type. -/
def givenUnderlying? (entry : TypeEntry) : Option Json :=
  (Json.member? entry "enum_underlying").filter Json.isGiven

/-- The serialized name of the underlying type that an entry gives. -/
def underlyingName? (entry : TypeEntry) : Option Text :=
  match givenUnderlying? entry with
  | some (.string name) => some name
  | _ => none

/-- An entry can be read. -/
structure IsReadable (entry : TypeEntry) : Prop where
  /-- What it gives as its name has a text. -/
  name : ∀ value, givenName? entry = some value → value.plainText?.isSome
  /-- It gives its underlying type by a name, or not at all. -/
  underlying : ∀ value, givenUnderlying? entry = some value → ∃ name, value = .string name

/-- The name of the type that an entry gives, if it has a text. -/
def writtenName? (entry : Int × TypeEntry) : Option Text := (entryName entry.1 entry.2).toOption

/-- The name of the type that an entry gives; without a text it is empty. -/
def nameOfEntry (entry : Int × TypeEntry) : Text := (writtenName? entry).getD ""

/-- The name of a readable entry has a text. -/
theorem IsReadable.entryName_eq {entry : TypeEntry} (readable : IsReadable entry) (token : Int) :
    entryName token entry = .ok (nameOfEntry (token, entry)) := by
  have named : ∃ name, entryName token entry = .ok name := by
    have written := readable.name
    unfold givenName? at written
    unfold entryName Dump.plainText
    split
    · next value given =>
      obtain ⟨text, found⟩ := Option.isSome_iff_exists.mp (written value given)
      exact ⟨text, by rw [found]⟩
    · exact ⟨_, rfl⟩
  obtain ⟨name, read⟩ := named
  rw [nameOfEntry, writtenName?, read]
  rfl

/-- The type of an entry whose underlying type is looked up in a table. -/
def typeIn (table : TypeTable) (token : Int) (entry : TypeEntry) : TypeSymbol where
  name := nameOfEntry (token, entry)
  enumUnderlying? := (underlyingName? entry).map table.resolve
  isReference :=
    !(((Json.member? entry "value_type").filter Json.isGiven).isSome ||
      (underlyingName? entry).isSome)

/-- A readable entry adds its type under its token and under its name. -/
theorem add_of_readable {entry : TypeEntry} (readable : IsReadable entry) (table : TypeTable)
    (token : Int) :
    table.add token entry = .ok {
      byToken := assign token (table.typeIn token entry) table.byToken
      byName := assign (nameOfEntry (token, entry)) (table.typeIn token entry) table.byName } := by
  unfold add
  rw [readable.entryName_eq token]
  unfold entryUnderlying? typeIn underlyingName?
  cases given : givenUnderlying? entry with
  | none =>
    unfold givenUnderlying? at given
    rw [given]
    rfl
  | some value =>
    obtain ⟨name, rfl⟩ := readable.underlying value given
    unfold givenUnderlying? at given
    rw [given]
    rfl

/-- Only a text is a serialized name. -/
theorem serializedName_refused {value : Json} (noText : ∀ name, value ≠ .string name) :
    ∃ fault, serializedName value = .error fault := by
  cases value with
  | string name => exact absurd rfl (noText name)
  | object members =>
    unfold serializedName
    dsimp only
    split <;> exact ⟨_, rfl⟩
  | _ => exact ⟨_, rfl⟩

/-- An entry whose name has no text is refused. -/
theorem add_of_unwritten {entry : TypeEntry} {value : Json} (given : givenName? entry = some value)
    (unwritten : value.plainText? = none) (table : TypeTable) (token : Int) :
    ∃ fault, table.add token entry = .error fault := by
  unfold givenName? at given
  unfold add entryName Dump.plainText
  rw [given]
  dsimp only
  rw [unwritten]
  exact ⟨_, rfl⟩

/-- An entry whose underlying type is not given by a name is refused, if not for its own name. -/
theorem add_of_nameless {entry : TypeEntry} {value : Json}
    (given : givenUnderlying? entry = some value) (noText : ∀ name, value ≠ .string name)
    (table : TypeTable) (token : Int) : ∃ fault, table.add token entry = .error fault := by
  obtain ⟨fault, refused⟩ := serializedName_refused noText
  unfold givenUnderlying? at given
  unfold add entryUnderlying?
  rw [given]
  simp only [refused]
  cases entryName token entry <;> exact ⟨_, rfl⟩

/-- An entry that is not readable is refused, whatever the table holds. -/
theorem add_of_not_readable {entry : TypeEntry} (unreadable : ¬IsReadable entry)
    (table : TypeTable) (token : Int) : ∃ fault, table.add token entry = .error fault := by
  by_cases nameless : ∃ value, givenUnderlying? entry = some value ∧ ∀ name, value ≠ .string name
  · obtain ⟨value, given, noText⟩ := nameless
    exact add_of_nameless given noText table token
  · push Not at nameless
    obtain ⟨value, given, unwritten⟩ :
        ∃ value, givenName? entry = some value ∧ value.plainText? = none := by
      by_contra written
      push Not at written
      exact unreadable ⟨fun value given => Option.isSome_iff_ne_none.mpr (written value given),
        nameless⟩
    exact add_of_unwritten given unwritten table token

/-! ## Entries by themselves -/

/-- The type that an entry gives by itself. -/
def typeOfEntry (entry : Int × TypeEntry) : TypeSymbol :=
  ({} : TypeTable).typeIn entry.1 entry.2

/-- The table of the types that entries give by themselves. -/
def separately (entries : List (Int × TypeEntry)) : TypeTable where
  byToken := entries.map fun entry => (entry.1, typeOfEntry entry)
  byName := entries.map fun entry => (nameOfEntry entry, typeOfEntry entry)

/-- No two entries have the same token or the same name, and no entry names one of them as its
underlying type. An entry whose name has no text has none in common with others. -/
structure Independent (entries : List (Int × TypeEntry)) : Prop where
  /-- The tokens are distinct. -/
  tokens : (entries.map Prod.fst).Nodup
  /-- The names are distinct. -/
  names : (entries.filterMap writtenName?).Nodup
  /-- The underlying types have other names, even without their qualification. -/
  unlinked : ∀ entry ∈ entries, ∀ underlying ∈ underlyingName? entry.2,
    ∀ other ∈ entries, writtenName? other ≠ some (bareName underlying)

instance : DecidablePred Independent := fun entries =>
  decidable_of_iff ((entries.map Prod.fst).Nodup ∧ (entries.filterMap writtenName?).Nodup ∧
      ∀ entry ∈ entries, ∀ underlying ∈ underlyingName? entry.2,
        ∀ other ∈ entries, writtenName? other ≠ some (bareName underlying))
    ⟨fun ⟨tokens, names, unlinked⟩ => ⟨tokens, names, unlinked⟩,
      fun ⟨tokens, names, unlinked⟩ => ⟨tokens, names, unlinked⟩⟩

/-- Entries are independent, and all their names have a text. -/
structure Separate (entries : List (Int × TypeEntry)) : Prop where
  /-- The tokens are distinct. -/
  tokens : (entries.map Prod.fst).Nodup
  /-- The names are distinct. -/
  names : (entries.map nameOfEntry).Nodup
  /-- The underlying types have other names, even without their qualification. -/
  unlinked : ∀ entry ∈ entries, ∀ underlying ∈ underlyingName? entry.2,
    ∀ other ∈ entries, bareName underlying ≠ nameOfEntry other

/-- Readable entries have names. -/
theorem writtenName?_of_readable {entry : Int × TypeEntry} (readable : IsReadable entry.2) :
    writtenName? entry = some (nameOfEntry entry) :=
  toOption_eq_some_iff.mpr (readable.entryName_eq entry.1)

/-- So they are separate if they are independent. -/
theorem Independent.separate {entries : List (Int × TypeEntry)} (independent : Independent entries)
    (readable : ∀ entry ∈ entries, IsReadable entry.2) : Separate entries where
  tokens := independent.tokens
  names := by
    have names : entries.filterMap writtenName? = entries.map nameOfEntry := by
      rw [← List.filterMap_eq_map]
      exact List.filterMap_congr fun entry listed =>
        writtenName?_of_readable (readable entry listed)
    exact names ▸ independent.names
  unlinked := by
    intro entry listed underlying named other listedOther same
    refine independent.unlinked entry listed underlying named other listedOther ?_
    rw [writtenName?_of_readable (readable other listedOther), same]

/-- The order of entries does not matter. -/
theorem Separate.perm {entries others : List (Int × TypeEntry)}
    (separate : Separate entries) (permuted : entries.Perm others) : Separate others where
  tokens := (permuted.map Prod.fst).nodup_iff.mp separate.tokens
  names := (permuted.map nameOfEntry).nodup_iff.mp separate.names
  unlinked := by
    intro entry listed underlying named other listedOther
    exact separate.unlinked entry (permuted.mem_iff.mpr listed) underlying named other
      (permuted.mem_iff.mpr listedOther)

/-- Entries in front of a separate list are separate. -/
theorem Separate.front {entries : List (Int × TypeEntry)} {last : Int × TypeEntry}
    (separate : Separate (entries ++ [last])) : Separate entries where
  tokens := separate.tokens.sublist ((List.sublist_append_left entries [last]).map _)
  names := separate.names.sublist ((List.sublist_append_left entries [last]).map _)
  unlinked := by
    intro entry listed underlying named other listedOther
    exact separate.unlinked entry (List.mem_append_left _ listed) underlying named other
      (List.mem_append_left _ listedOther)

/-- The tokens of the table are those of the entries. -/
theorem keys_byToken (entries : List (Int × TypeEntry)) :
    (separately entries).byToken.map Prod.fst = entries.map Prod.fst := by
  simp [separately]

/-- The names of the table are those of the entries. -/
theorem keys_byName (entries : List (Int × TypeEntry)) :
    (separately entries).byName.map Prod.fst = entries.map nameOfEntry := by
  simp [separately]

/-- A name that no entry has is resolved as if there were no entries. -/
theorem resolve_of_unlisted {entries : List (Int × TypeEntry)} {name : Text}
    (unlisted : ∀ entry ∈ entries, bareName name ≠ nameOfEntry entry) :
    (separately entries).resolve name = ({} : TypeTable).resolve name := by
  have absent : (separately entries).byName.lookup (bareName name) = none := by
    rw [List.lookup_eq_none_iff]
    intro pair listed
    obtain ⟨entry, member, rfl⟩ := List.mem_map.mp listed
    exact bne_iff_ne.mpr (unlisted entry member)
  simp only [resolve, absent, List.lookup_nil]

/-- Behind entries that it does not refer to, an entry gives the type that it gives by itself. -/
theorem Separate.typeIn_eq {entries : List (Int × TypeEntry)} {last : Int × TypeEntry}
    (separate : Separate (entries ++ [last])) :
    (separately entries).typeIn last.1 last.2 = typeOfEntry last := by
  unfold typeOfEntry typeIn
  cases named : underlyingName? last.2 with
  | none => rfl
  | some underlying =>
    have unlisted : ∀ entry ∈ entries, bareName underlying ≠ nameOfEntry entry := by
      intro entry listed
      exact separate.unlinked last (by simp) underlying named entry
        (List.mem_append_left _ listed)
    rw [Option.map_some, Option.map_some, resolve_of_unlisted unlisted]

/-- A step of building the table: an entry that the ones before it have no bearing on comes last. -/
theorem Separate.add_eq {entries : List (Int × TypeEntry)} {last : Int × TypeEntry}
    (separate : Separate (entries ++ [last])) (readable : IsReadable last.2) :
    (separately entries).add last.1 last.2 = .ok (separately (entries ++ [last])) := by
  have token : last.1 ∉ (separately entries).byToken.map Prod.fst := by
    have distinct := separate.tokens
    rw [List.map_append, List.nodup_append] at distinct
    rw [keys_byToken]
    exact fun listed => distinct.2.2 _ listed _ (List.mem_singleton_self _) rfl
  have name : nameOfEntry last ∉ (separately entries).byName.map Prod.fst := by
    have distinct := separate.names
    rw [List.map_append, List.nodup_append] at distinct
    rw [keys_byName]
    exact fun listed => distinct.2.2 _ listed _ (List.mem_singleton_self _) rfl
  rw [add_of_readable readable, separate.typeIn_eq, assign_of_absent token]
  rw [assign_of_absent name]
  simp [separately]

/-- Separate entries that are readable give the table of their types by themselves. -/
theorem Separate.ofEntries_eq {entries : List (Int × TypeEntry)}
    (separate : Separate entries) (readable : ∀ entry ∈ entries, IsReadable entry.2) :
    ofEntries entries = .ok (separately entries) := by
  induction entries using List.reverseRecOn with
  | nil => rfl
  | append_singleton entries last hypothesis =>
    have front := hypothesis separate.front fun entry listed =>
      readable entry (List.mem_append_left _ listed)
    have step := separate.add_eq (readable last (by simp))
    unfold ofEntries at front ⊢
    rw [List.foldlM_append, bind_eq_ok_iff]
    exact ⟨_, front, bind_eq_ok_iff.mpr ⟨_, step, rfl⟩⟩

/-- One entry that is not readable makes a table impossible. -/
theorem ofEntries_refused {entries : List (Int × TypeEntry)} {entry : Int × TypeEntry}
    (listed : entry ∈ entries) (unreadable : ¬IsReadable entry.2) :
    ∃ fault, ofEntries entries = .error fault := by
  cases built : ofEntries entries with
  | error fault => exact ⟨fault, rfl⟩
  | ok table =>
    obtain ⟨front, behind, rfl⟩ := List.append_of_mem listed
    unfold ofEntries at built
    rw [List.foldlM_append] at built
    obtain ⟨before, -, rest⟩ := bind_eq_ok_iff.mp built
    obtain ⟨after, added, -⟩ := bind_eq_ok_iff.mp rest
    obtain ⟨fault, refused⟩ := add_of_not_readable unreadable before entry.1
    exact nomatch refused.symm.trans added

/-- Separate entries give tables that are alike in any order. -/
theorem Separate.alike {entries others : List (Int × TypeEntry)}
    (separate : Separate entries) (permuted : entries.Perm others) :
    Alike (separately entries) (separately others) where
  byToken := lookup_perm (permuted.map _) (keys_byToken entries ▸ separate.tokens)
  byName := lookup_perm (permuted.map _) (keys_byName entries ▸ separate.names)

/-- Independent entries give tables that are alike in any order, namely those that hold for each
entry the type that it gives by itself; so signatures, constants, serialized names and whole answers
are the same. No order makes up for an entry whose name has no text or whose underlying type is not
given by a name. -/
theorem entry_order_immaterial (entries others : List (Int × TypeEntry))
    (independent : Independent entries) (permuted : entries.Perm others) :
    ((∀ entry ∈ entries, IsReadable entry.2) →
      ofEntries entries = .ok (separately entries) ∧
        ofEntries others = .ok (separately others) ∧
        Alike (separately entries) (separately others) ∧
        (separately entries).tokens = (separately others).tokens ∧
        (separately entries).resolve = (separately others).resolve ∧
        (∀ scopes flags, (separately entries).constantSymbols scopes flags =
          (separately others).constantSymbols scopes flags) ∧
        ∀ dump query, readMethodInfo dump (some (separately entries)) query =
          readMethodInfo dump (some (separately others)) query) ∧
    ((∃ entry ∈ entries, ¬IsReadable entry.2) →
      (∃ fault, ofEntries entries = .error fault) ∧ ∃ fault, ofEntries others = .error fault) := by
  constructor
  · intro readable
    have readableOthers : ∀ entry ∈ others, IsReadable entry.2 := fun entry listed =>
      readable entry (permuted.mem_iff.mpr listed)
    have separate := independent.separate readable
    have alike := separate.alike permuted
    exact ⟨separate.ofEntries_eq readable,
      (separate.perm permuted).ofEntries_eq readableOthers, alike, alike.tokens_eq,
      alike.resolve_eq, alike.constantSymbols_eq, alike.readMethodInfo_eq⟩
  · rintro ⟨entry, listed, unreadable⟩
    exact ⟨ofEntries_refused listed unreadable,
      ofEntries_refused (permuted.mem_iff.mp listed) unreadable⟩

/-- An enumeration whose underlying type is a special type, a value type with the name of another
special type, and a type without a name. -/
def colorEntries : List (Int × TypeEntry) :=
  [(0x02000001, [("name", .string "Color"), ("enum_underlying", .string "System.Byte, lib")]),
    (0x01000001, [("name", .string "System.Int32"), ("value_type", .boolean true)]),
    (0x02000002, [])]

/-- An entry whose underlying type is no name, in front of one that is in order. -/
def unnamedEntries : List (Int × TypeEntry) :=
  [(0x02000001, [("name", .string "Odd"), ("enum_underlying", .boolean true)]),
    (0x02000002, [("name", .string "Even")])]

/-- In both directions the enumeration has the special type as its underlying type, and the special
type of the name that is in the table is hidden. An entry out of order is refused in both. -/
theorem entry_order_immaterial_reverse :
    Independent colorEntries ∧ colorEntries.Perm colorEntries.reverse ∧
      (∀ entry ∈ colorEntries, IsReadable entry.2) ∧
      ofEntries colorEntries.reverse = .ok (separately colorEntries.reverse) ∧
      (separately colorEntries.reverse).resolve "Color, lib" =
        { name := "Color", enumUnderlying? := some { name := "System.Byte", special := .uint8 } } ∧
      (separately colorEntries.reverse).resolve "System.Int32" = { name := "System.Int32" } ∧
      Independent unnamedEntries ∧ (∃ entry ∈ unnamedEntries, ¬IsReadable entry.2) ∧
      ∃ fault, ofEntries unnamedEntries.reverse = .error fault := by
  have independent : Independent colorEntries := by decide
  have permuted : colorEntries.Perm colorEntries.reverse := (List.reverse_perm _).symm
  have readable : ∀ entry ∈ colorEntries, IsReadable entry.2 := by
    intro entry listed
    simp only [colorEntries, List.mem_cons, List.not_mem_nil, or_false] at listed
    obtain rfl | rfl | rfl := listed
    · exact ⟨fun value given => Option.some.inj given ▸ rfl,
        fun value given => ⟨_, (Option.some.inj given).symm⟩⟩
    · exact ⟨fun value given => Option.some.inj given ▸ rfl, nofun⟩
    · exact ⟨nofun, nofun⟩
  obtain ⟨built, -⟩ := entry_order_immaterial _ _ independent permuted
  obtain ⟨-, reversed, -⟩ := built readable
  have unnamed : Independent unnamedEntries := by decide
  have unreadable : ∃ entry ∈ unnamedEntries, ¬IsReadable entry.2 := by
    refine ⟨_, List.mem_cons_self, fun readable => ?_⟩
    obtain ⟨name, same⟩ := readable.underlying (.boolean true) rfl
    nomatch same
  obtain ⟨-, refused⟩ :=
    entry_order_immaterial _ _ unnamed (List.reverse_perm unnamedEntries).symm
  exact ⟨independent, permuted, readable, reversed, rfl, rfl, unnamed, unreadable,
    (refused unreadable).2⟩

end TypeTable

end DebugLens
