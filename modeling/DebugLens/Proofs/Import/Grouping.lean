import DebugLens.Proofs.CustomInfo.Layout
import DebugLens.Proofs.Import.Outline

/-!
# Import strings in groups

Dividing import strings into groups of given sizes neither loses nor invents a string: the groups
and what follows them, one after another, are the strings of the method that the outline ends on.
No extern alias stands in a group. Extern aliases follow the groups, or else come from the method
that a forward-to-module record names, and then nothing may follow the groups.
-/
namespace DebugLens.Import

/-- The string begins with the tag of an extern alias that has an assembly. -/
def NamesAssembly (text : Text) : Prop := text.head? = some (.char 'Z')

instance : DecidablePred NamesAssembly :=
  fun text => inferInstanceAs (Decidable (text.head? = some (.char 'Z')))

/-- Strings are divided into groups of the given sizes and extern aliases, which follow the groups
or are found among the strings of the module. -/
structure Divides (strings : List Text) (sizes : List Nat) (moduleStrings? : Option (List Text))
    (grouped : GroupedStrings) : Prop where
  /-- The groups have the given sizes, in order. -/
  sizes_eq : grouped.groups.map List.length = sizes
  /-- No string of a group names an assembly. -/
  plain : ∀ group ∈ grouped.groups, ∀ text ∈ group, ¬NamesAssembly text
  /-- The groups come first, and what follows them is told apart by the module. -/
  complete : ∃ rest, strings = grouped.groups.flatten ++ rest ∧
    match moduleStrings? with
    | none => (∀ text ∈ rest, NamesAssembly text) ∧ grouped.externAliases = rest
    | some moduleStrings =>
      rest = [] ∧ grouped.externAliases = moduleStrings.filter fun text => NamesAssembly text

/-- Extern aliases are the strings that name an assembly under an alias. -/
theorem isExternAlias_iff (text : Text) : CSharp.isExternAlias text ↔ NamesAssembly text := by
  unfold CSharp.isExternAlias NamesAssembly
  split
  · simp
  · next other =>
    refine iff_of_false Bool.false_ne_true fun tagged => ?_
    obtain ⟨rest, rfl⟩ := List.head?_eq_some_iff.mp tagged
    exact other rest rfl

/-- The test for extern aliases decides whether a string names an assembly. -/
theorem isExternAlias_eq : CSharp.isExternAlias = fun text => decide (NamesAssembly text) := by
  funext text
  rw [Bool.eq_iff_iff, isExternAlias_iff, decide_eq_true_iff]

/-- A group is taken exactly if it has the given size and names no assembly. -/
theorem takeGroup_eq_ok_iff {token : Int} {size : Nat} {strings group rest : List Text} :
    takeGroup token size strings = .ok (group, rest) ↔
      strings = group ++ rest ∧ group.length = size ∧ ∀ text ∈ group, ¬NamesAssembly text := by
  induction size generalizing strings group with
  | zero =>
    simp only [takeGroup, Except.ok.injEq, Prod.mk.injEq, List.length_eq_zero_iff]
    constructor
    · rintro ⟨rfl, rfl⟩
      simp
    · rintro ⟨joined, rfl, -⟩
      exact ⟨rfl, joined⟩
  | succ size hypothesis =>
    cases strings with
    | nil =>
      refine iff_of_false nofun ?_
      rintro ⟨joined, long, -⟩
      rw [(List.append_eq_nil_iff.mp joined.symm).1] at long
      contradiction
    | cons first strings =>
      rw [takeGroup]
      by_cases tagged : NamesAssembly first
      · rw [if_pos ((isExternAlias_iff first).mpr tagged)]
        refine iff_of_false nofun ?_
        rintro ⟨joined, long, plain⟩
        cases group with
        | nil => contradiction
        | cons head group =>
          obtain rfl := (List.cons.inj joined).1
          exact plain first List.mem_cons_self tagged
      · rw [if_neg (mt (isExternAlias_iff first).mp tagged), bind_eq_ok_iff]
        constructor
        · rintro ⟨⟨inner, left⟩, taken, made⟩
          obtain ⟨rfl, rfl⟩ := Prod.mk.inj (Except.ok.inj made)
          obtain ⟨rfl, long, plain⟩ := hypothesis.mp taken
          refine ⟨rfl, congrArg (· + 1) long, ?_⟩
          exact List.forall_mem_cons.mpr ⟨tagged, plain⟩
        · rintro ⟨joined, long, plain⟩
          cases group with
          | nil => contradiction
          | cons head group =>
            obtain ⟨rfl, behind⟩ := List.cons.inj joined
            have taken := hypothesis.mpr
              ⟨behind, Nat.succ.inj long, fun text inside => plain text (.tail _ inside)⟩
            exact ⟨(group, rest), taken, rfl⟩

/-- Groups are taken exactly if they stand at the front one after another, have the given sizes
and name no assembly. -/
theorem takeGroups_eq_ok_iff {token : Int} {sizes : List Nat} {strings rest : List Text}
    {groups : List (List Text)} :
    takeGroups token sizes strings = .ok (groups, rest) ↔
      strings = groups.flatten ++ rest ∧ groups.map List.length = sizes ∧
        ∀ group ∈ groups, ∀ text ∈ group, ¬NamesAssembly text := by
  induction sizes generalizing strings groups with
  | nil =>
    simp only [takeGroups, Except.ok.injEq, Prod.mk.injEq, List.map_eq_nil_iff]
    constructor
    · rintro ⟨rfl, rfl⟩
      simp
    · rintro ⟨joined, rfl, -⟩
      exact ⟨rfl, joined⟩
  | cons size sizes hypothesis =>
    rw [takeGroups, bind_eq_ok_iff]
    constructor
    · rintro ⟨⟨group, left⟩, taken, further⟩
      obtain ⟨⟨inner, last⟩, takenOn, made⟩ := bind_eq_ok_iff.mp further
      obtain ⟨rfl, rfl⟩ := Prod.mk.inj (Except.ok.inj made)
      obtain ⟨rfl, long, plain⟩ := takeGroup_eq_ok_iff.mp taken
      obtain ⟨rfl, longs, plains⟩ := hypothesis.mp takenOn
      refine ⟨by simp, by rw [List.map_cons, long, longs], ?_⟩
      exact List.forall_mem_cons.mpr ⟨plain, plains⟩
    · rintro ⟨joined, longs, plains⟩
      cases groups with
      | nil => contradiction
      | cons group groups =>
        obtain ⟨long, longs⟩ := List.cons.inj longs
        rw [List.flatten_cons, List.append_assoc] at joined
        have taken := (@takeGroup_eq_ok_iff token _ _ _ _).mpr
          ⟨joined, long, plains group List.mem_cons_self⟩
        have takenOn := hypothesis.mpr
          ⟨rfl, longs, fun inner inside => plains inner (List.mem_cons_of_mem _ inside)⟩
        exact ⟨_, taken, bind_eq_ok_iff.mpr ⟨_, takenOn, rfl⟩⟩

/-- An outline groups strings exactly if it divides them. -/
theorem Outline.group_eq_ok_iff {outline : Outline} {sizes : List Nat} {strings : List Text}
    {moduleStrings? : Option (List Text)} {grouped : GroupedStrings}
    (aliases_eq : outline.moduleAliases? =
      moduleStrings?.map fun moduleStrings => moduleStrings.filter CSharp.isExternAlias) :
    outline.group sizes strings = .ok grouped ↔
      Divides strings sizes moduleStrings? grouped := by
  obtain ⟨groups, externs⟩ := grouped
  rw [Outline.group, bind_eq_ok_iff, aliases_eq]
  cases moduleStrings? with
  | none =>
    constructor
    · rintro ⟨⟨taken, rest⟩, split, further⟩
      dsimp only [Option.map_none] at further
      split at further
      · next tagged =>
        obtain ⟨rfl, rfl⟩ := GroupedStrings.mk.inj (Except.ok.inj further)
        obtain ⟨joined, longs, plains⟩ := takeGroups_eq_ok_iff.mp split
        refine ⟨longs, plains, rest, joined, ?_, rfl⟩
        intro text inside
        exact (isExternAlias_iff text).mp (List.all_eq_true.mp tagged text inside)
      · contradiction
    · rintro ⟨longs, plains, rest, joined, tagged, rfl⟩
      refine ⟨_, takeGroups_eq_ok_iff.mpr ⟨joined, longs, plains⟩, if_pos ?_⟩
      exact List.all_eq_true.mpr fun text inside =>
        (isExternAlias_iff text).mpr (tagged text inside)
  | some moduleStrings =>
    rw [isExternAlias_eq]
    constructor
    · rintro ⟨⟨taken, rest⟩, split, further⟩
      dsimp only [Option.map_some] at further
      split at further
      · next nothing =>
        obtain ⟨rfl, rfl⟩ := GroupedStrings.mk.inj (Except.ok.inj further)
        obtain ⟨joined, longs, plains⟩ := takeGroups_eq_ok_iff.mp split
        exact ⟨longs, plains, rest, joined, List.isEmpty_iff.mp nothing, rfl⟩
      · contradiction
    · rintro ⟨longs, plains, rest, joined, rfl, rfl⟩
      exact ⟨_, takeGroups_eq_ok_iff.mpr ⟨joined, longs, plains⟩, rfl⟩

/-- With sizes, the strings of the method that the outline ended on are grouped. -/
theorem groupedStrings_of_outline {source : MethodSource} {token : Int} {outline : Outline}
    {sizes : List Nat} (found : outlineOf source token = .ok (some outline))
    (given : outline.sizes? = some sizes) :
    groupedStrings source token =
      (outline.group sizes (source.strings outline.token)).map some := by
  rw [groupedStrings, found]
  dsimp only [bind, Except.bind]
  rw [given]
  change (outline.group sizes (source.strings outline.token)).bind _ = _
  cases outline.group sizes (source.strings outline.token) <;> rfl

/-- Once the records of a method are passed and one of them gives group sizes, the strings of the
method that they end on are grouped exactly if they are divided by these sizes, with the extern
aliases of the module that a record names, if there is one. Otherwise there is a fault. -/
theorem groupedStrings_exact (source : MethodSource) (token : Int) (sizes : List Nat)
    (finished : ∃ outline, outlineOf source token = .ok (some outline))
    (sized : ∃ record ∈ source.passed token, sizesOf? record = some sizes) :
    let strings := source.strings (source.endToken token)
    let moduleStrings? := ((source.passed token).findSome? moduleOf?).map source.strings
    (∀ grouped, groupedStrings source token = .ok (some grouped) ↔
      Divides strings sizes moduleStrings? grouped) ∧
    ((¬∃ grouped, Divides strings sizes moduleStrings? grouped) →
      ∃ fault, groupedStrings source token = .error fault) := by
  obtain ⟨outline, found⟩ := finished
  have traced := outlineOf_traced found
  have given : outline.sizes? = some sizes := by
    have listed := List.mem_filterMap.mpr sized
    rw [traced.sizes_eq] at listed
    exact Option.mem_toList.mp listed
  have aliases_eq := traced.aliases_eq
  rw [← Function.comp_def (List.filter CSharp.isExternAlias) source.strings,
    ← Option.map_map] at aliases_eq
  have grouping := groupedStrings_of_outline found given
  rw [traced.token_eq, ← MethodSource.endToken] at grouping
  simp only [grouping, map_eq_ok_iff, Option.some.injEq, exists_eq_right,
    Outline.group_eq_ok_iff aliases_eq, implies_true, true_and]
  intro undivided
  cases outcome : outline.group sizes (source.strings (source.endToken token)) with
  | error fault => exact ⟨fault, rfl⟩
  | ok grouped => exact absurd ⟨grouped, (Outline.group_eq_ok_iff aliases_eq).mp outcome⟩ undivided

/-- Visiting a method reads the records that the scan of its custom debug info finds. -/
theorem Outline.visit_of_scan {source : MethodSource} {outline : Outline} {blob : Bytes}
    {scan : CustomInfo.Scan} (found : source.customInfo? outline.token = some blob)
    (filled : blob ≠ []) (scanned : CustomInfo.scan blob = scan) :
    outline.visit source = (outline.steps source scan.fault? scan.records).map some := by
  subst scanned
  unfold Outline.visit
  rw [found]
  cases blob with
  | nil => contradiction
  | cons byte bytes => rfl

/-- Three methods: the first one forwards to the second one, whose extern aliases are those of the
third one. -/
def forwarding : MethodSource where
  customInfo? token :=
    if token = 1 then some [4, 0, 0, 0, 4, 1, 0, 0, 12, 0, 0, 0, 2, 0, 0, 0]
    else if token = 2 then
      some [4, 0, 0, 0, 4, 0, 0, 0, 14, 0, 0, 0, 2, 0, 0, 0, 1, 0,
        4, 2, 0, 0, 12, 0, 0, 0, 3, 0, 0, 0]
    else none
  importStrings? token :=
    if token = 2 then some ["USystem"] else if token = 3 then some ["Za A", "UX", "Zb B"] else none

/-- The record of the first method forwards to the second one. -/
theorem scan_forwarding_one :
    CustomInfo.scan [4, 0, 0, 0, 4, 1, 0, 0, 12, 0, 0, 0, 2, 0, 0, 0] =
      ⟨[⟨1, 4, [2, 0, 0, 0]⟩], none⟩ :=
  CustomInfo.scanRecords_eq_iff.mpr ⟨[⟨4, 1, 0, 0, [2, 0, 0, 0], by decide, by decide⟩], [],
    ⟨by decide, by decide⟩, by decide⟩

/-- The records of the second method give two sizes and name the third method. -/
theorem scan_forwarding_two :
    CustomInfo.scan [4, 0, 0, 0, 4, 0, 0, 0, 14, 0, 0, 0, 2, 0, 0, 0, 1, 0,
        4, 2, 0, 0, 12, 0, 0, 0, 3, 0, 0, 0] =
      ⟨[⟨0, 4, [2, 0, 0, 0, 1, 0]⟩, ⟨2, 4, [3, 0, 0, 0]⟩], none⟩ :=
  CustomInfo.scanRecords_eq_iff.mpr ⟨[⟨4, 0, 0, 0, [2, 0, 0, 0, 1, 0], by decide, by decide⟩,
    ⟨4, 2, 0, 0, [3, 0, 0, 0], by decide, by decide⟩], [], ⟨by decide, by decide⟩, by decide⟩

/-- The outline of the first method ends on the second one. -/
theorem outlineOf_forwarding :
    outlineOf forwarding 1 = .ok (some {
      token := 2, sizes? := some [0, 1], moduleAliases? := some ["Za A", "Zb B"]
      followed := true }) := by
  have first : Outline.visit forwarding { token := 1 } =
      .ok (some ({ token := 2, followed := true }, true)) :=
    Outline.visit_of_scan rfl (List.cons_ne_nil _ _) scan_forwarding_one
  have second : Outline.visit forwarding { token := 2, followed := true } =
      .ok (some ({
        token := 2, sizes? := some [0, 1], moduleAliases? := some ["Za A", "Zb B"]
        followed := true }, false)) :=
    Outline.visit_of_scan rfl (List.cons_ne_nil _ _) scan_forwarding_two
  exact bind_eq_ok_iff.mpr ⟨_, first, bind_eq_ok_iff.mpr ⟨_, second, rfl⟩⟩

/-- The records that are passed on the way from the first method to the second one. -/
theorem passed_forwarding :
    forwarding.passed 1 =
      [⟨1, 4, [2, 0, 0, 0]⟩, ⟨0, 4, [2, 0, 0, 0, 1, 0]⟩, ⟨2, 4, [3, 0, 0, 0]⟩] := by
  have first : forwarding.records 1 = [⟨1, 4, [2, 0, 0, 0]⟩] :=
    congrArg CustomInfo.Scan.records scan_forwarding_one
  have second : forwarding.records 2 = [⟨0, 4, [2, 0, 0, 0, 1, 0]⟩, ⟨2, 4, [3, 0, 0, 0]⟩] :=
    congrArg CustomInfo.Scan.records scan_forwarding_two
  have forwards : (forwarding.records 1).findSome? forwardOf? = some 2 := by
    rw [first]
    decide
  rw [MethodSource.passed, forwards]
  dsimp only
  rw [first, second]
  decide

/-- The empty group stays in its place, and the string without the tag is no extern alias. -/
theorem groupedStrings_forwarding :
    (∃ outline, outlineOf forwarding 1 = .ok (some outline)) ∧
      (∃ record ∈ forwarding.passed 1, sizesOf? record = some [0, 1]) ∧
      groupedStrings forwarding 1 =
        .ok (some { groups := [[], ["USystem"]], externAliases := ["Za A", "Zb B"] }) := by
  have finished : ∃ outline, outlineOf forwarding 1 = .ok (some outline) :=
    ⟨_, outlineOf_forwarding⟩
  have sized : ∃ record ∈ forwarding.passed 1, sizesOf? record = some [0, 1] := by
    rw [passed_forwarding]
    exact ⟨_, .tail _ (.head _), by decide⟩
  obtain ⟨accepts, -⟩ := groupedStrings_exact forwarding 1 [0, 1] finished sized
  refine ⟨finished, sized, (accepts _).mpr ⟨rfl, ?_, [], ?_, ?_⟩⟩
  · decide
  · rw [MethodSource.endToken, passed_forwarding]
    decide
  · rw [passed_forwarding]
    exact ⟨rfl, by decide⟩

end DebugLens.Import
