import DebugLens.Proofs.Import.Grouping

/-!
# The methods that sizes and strings come from

The group sizes are those of a record that is read before the first forward record of the queried
method, or of a record of the method that this one names. The strings that are divided are those
of the method that the last forward record names, although no forward after the first one is
followed. So sizes and strings come from one method unless the sizes stand before a forward, or a
forward stands in the second method, and does not lead back to where the sizes are.
-/
namespace DebugLens.Import

namespace MethodSource

variable (source : MethodSource) (token : Int)

/-- The method that the first forward record of a method names. -/
def firstForward? : Option Int := (source.records token).findSome? forwardOf?

/-- The method that the last forward record of a method names. -/
def lastForward? : Option Int := ((source.records token).filterMap forwardOf?).getLast?

/-- Group sizes are given before a forward is followed. -/
def SizedFirst : Prop := ∃ record ∈ throughForward (source.records token), (sizesOf? record).isSome

instance : Decidable (source.SizedFirst token) := inferInstanceAs (Decidable (∃ _ ∈ _, _))

/-- The method whose record gives the group sizes. -/
def sizer : Int :=
  if source.SizedFirst token then token else (source.firstForward? token).getD token

end MethodSource

/-- Sizes and strings come from one method, which is the queried one or the one that it forwards
to. -/
structure FromMethod (source : MethodSource) (token : Int) (grouped : GroupedStrings)
    (method : Int) : Prop where
  /-- The method is the queried one, or its first forward record names it. -/
  reached : method = token ∨ source.firstForward? token = some method
  /-- A record of the method gives the sizes of the groups. -/
  sized : ∃ record ∈ source.records method,
    sizesOf? record = some (grouped.groups.map List.length)
  /-- The groups are divided off the strings of the method. -/
  divided : ∃ rest, source.strings method = grouped.groups.flatten ++ rest

/-- The records read before handing over are some of the records. -/
theorem mem_of_mem_throughForward {record : CustomInfo.Record} {records : List CustomInfo.Record}
    (read : record ∈ throughForward records) : record ∈ records := by
  induction records with
  | nil => exact read
  | cons first records hypothesis =>
    unfold throughForward at read
    split at read
    · rw [List.mem_singleton.mp read]
      exact List.mem_cons_self
    · rcases List.mem_cons.mp read with rfl | later
      · exact List.mem_cons_self
      · exact List.mem_cons_of_mem first (hypothesis later)

/-- Without a forward record, all records are read. -/
theorem throughForward_eq_self {records : List CustomInfo.Record}
    (unforwarded : records.findSome? forwardOf? = none) : throughForward records = records := by
  induction records with
  | nil => rfl
  | cons first records hypothesis =>
    rw [List.findSome?_cons] at unforwarded
    cases target : forwardOf? first with
    | some method =>
      rw [target] at unforwarded
      contradiction
    | none =>
      rw [target] at unforwarded
      simp [throughForward, target, hypothesis unforwarded]

namespace MethodSource

variable {source : MethodSource} {token : Int}

/-- The records passed are those read before handing over, and then those of the method that the
first forward record names. -/
theorem mem_passed_iff {record : CustomInfo.Record} :
    record ∈ source.passed token ↔
      record ∈ throughForward (source.records token) ∨
        ∃ target, source.firstForward? token = some target ∧ record ∈ source.records target := by
  unfold passed firstForward?
  split
  · next unforwarded => simp [unforwarded, throughForward_eq_self unforwarded]
  · next target forwards => simp [forwards]

/-- The strings are those of the method that the last forward record names: the last one of the
method that the queried one forwards to, or else the one that is followed. -/
theorem endToken_eq :
    source.endToken token =
      match source.firstForward? token with
      | none => token
      | some target => (source.lastForward? target).getD target := by
  unfold endToken passed firstForward? lastForward?
  cases forwards : (source.records token).findSome? forwardOf? with
  | none =>
    have unforwarded : (source.records token).filterMap forwardOf? = [] :=
      List.filterMap_eq_nil_iff.mpr (List.findSome?_eq_none_iff.mp forwards)
    dsimp only
    rw [unforwarded]
    rfl
  | some target =>
    dsimp only
    rw [List.filterMap_append, filterMap_throughForward, forwards, List.getLast?_append]
    cases ((source.records target).filterMap forwardOf?).getLast? <;> rfl

/-- The method with the sizes is the queried one or the one that it forwards to. -/
theorem sizer_reached :
    source.sizer token = token ∨ source.firstForward? token = some (source.sizer token) := by
  unfold sizer
  split
  · exact .inl rfl
  · cases source.firstForward? token with
    | none => exact .inl rfl
    | some target => exact .inr rfl

/-- If only one record passed gives sizes, it is a record of the method with the sizes. -/
theorem sized_sizer {sizes : List Nat} (only : (source.passed token).filterMap sizesOf? = [sizes]) :
    ∃ record ∈ source.records (source.sizer token), sizesOf? record = some sizes := by
  have unique : ∀ record ∈ source.passed token, ∀ given, sizesOf? record = some given →
      given = sizes := by
    intro record passed given gives
    have listed := List.mem_filterMap.mpr ⟨record, passed, gives⟩
    rw [only] at listed
    exact List.mem_singleton.mp listed
  obtain ⟨record, passed, gives⟩ := List.mem_filterMap.mp
    (only ▸ List.mem_singleton.mpr rfl : sizes ∈ (source.passed token).filterMap sizesOf?)
  by_cases first : source.SizedFirst token
  · rw [sizer, if_pos first]
    obtain ⟨early, read, sized⟩ := first
    obtain ⟨given, givesEarly⟩ := Option.isSome_iff_exists.mp sized
    obtain rfl := unique early (mem_passed_iff.mpr (.inl read)) given givesEarly
    exact ⟨early, mem_of_mem_throughForward read, givesEarly⟩
  · rw [sizer, if_neg first]
    rcases mem_passed_iff.mp passed with read | ⟨target, forwards, listed⟩
    · exact absurd ⟨record, read, by rw [gives]; rfl⟩ first
    · rw [forwards]
      exact ⟨record, listed, gives⟩

/-- Sizes and strings come from one method exactly if nothing is forwarded, or the last forward
leads to the method with the sizes. -/
theorem sizer_eq_endToken_iff :
    source.sizer token = source.endToken token ↔
      ∀ target, source.firstForward? token = some target →
        (source.lastForward? target).getD target =
          if source.SizedFirst token then token else target := by
  rw [endToken_eq, sizer]
  cases source.firstForward? token with
  | none => simp
  | some target => simp [eq_comm]

end MethodSource

/-- Grouped strings are those of an outline with sizes. -/
theorem outline_of_groupedStrings {source : MethodSource} {token : Int} {grouped : GroupedStrings}
    (returned : groupedStrings source token = .ok (some grouped)) :
    ∃ outline sizes, outlineOf source token = .ok (some outline) ∧ outline.sizes? = some sizes ∧
      outline.group sizes (source.strings outline.token) = .ok grouped := by
  obtain ⟨outline?, found, further⟩ := bind_eq_ok_iff.mp returned
  split at further
  · exact nomatch further
  · next outline =>
    split at further
    · exact nomatch further
    · next sizes given =>
      obtain ⟨result, divided, made⟩ := bind_eq_ok_iff.mp further
      obtain rfl := Option.some.inj (Except.ok.inj made)
      exact ⟨outline, sizes, found, given, divided⟩

/-- Grouped strings are divided off the strings of the method that the records passed end on, by
the sizes of the only record passed that gives any. -/
theorem divided_of_groupedStrings {source : MethodSource} {token : Int} {grouped : GroupedStrings}
    (returned : groupedStrings source token = .ok (some grouped)) :
    (source.passed token).filterMap sizesOf? = [grouped.groups.map List.length] ∧
      ∃ rest, source.strings (source.endToken token) = grouped.groups.flatten ++ rest := by
  obtain ⟨outline, sizes, found, given, divided⟩ := outline_of_groupedStrings returned
  have traced := outlineOf_traced found
  have aliases_eq : outline.moduleAliases? =
      (((source.passed token).findSome? moduleOf?).map source.strings).map fun moduleStrings =>
        moduleStrings.filter CSharp.isExternAlias := by
    rw [traced.aliases_eq, Option.map_map]
    rfl
  obtain ⟨longs, -, rest, joined, -⟩ := (Outline.group_eq_ok_iff aliases_eq).mp divided
  rw [MethodSource.endToken, ← traced.token_eq, traced.sizes_eq, given, longs]
  exact ⟨rfl, rest, joined⟩

/-- The sizes of grouped strings are those of one record, which belongs to the queried method or
to the one that it forwards to; the strings are those of the method that the last forward record
names. If the two are the same method, all comes from this method, and they are so exactly if
nothing is forwarded, or the last forward leads to where the sizes are: to the queried method, if
they stand there before its forward, and else to the method that it forwards to. -/
theorem groupedStrings_sources (source : MethodSource) (token : Int) (grouped : GroupedStrings)
    (returned : groupedStrings source token = .ok (some grouped)) :
    let sizer := source.sizer token
    let splitter := source.endToken token
    (sizer = token ∨ source.firstForward? token = some sizer) ∧
    (∃ record ∈ source.records sizer,
      sizesOf? record = some (grouped.groups.map List.length)) ∧
    (source.passed token).filterMap sizesOf? = [grouped.groups.map List.length] ∧
    (∃ rest, source.strings splitter = grouped.groups.flatten ++ rest) ∧
    (splitter = match source.firstForward? token with
      | none => token
      | some target => (source.lastForward? target).getD target) ∧
    (sizer = splitter → FromMethod source token grouped sizer) ∧
    (sizer = splitter ↔ ∀ target, source.firstForward? token = some target →
      (source.lastForward? target).getD target =
        if source.SizedFirst token then token else target) := by
  obtain ⟨only, divided⟩ := divided_of_groupedStrings returned
  have reached : source.sizer token = token ∨ _ := MethodSource.sizer_reached
  have sized := MethodSource.sized_sizer only
  refine ⟨reached, sized, only, divided, MethodSource.endToken_eq, ?_,
    MethodSource.sizer_eq_endToken_iff⟩
  intro same
  exact ⟨reached, sized, same ▸ divided⟩

/-- Nothing stands before the forward of the first method and no forward in the second one, so all
comes from the second one. -/
theorem groupedStrings_sources_forwarding :
    groupedStrings forwarding 1 =
        .ok (some { groups := [[], ["USystem"]], externAliases := ["Za A", "Zb B"] }) ∧
      FromMethod forwarding 1 { groups := [[], ["USystem"]], externAliases := ["Za A", "Zb B"] }
        2 := by
  have returned : groupedStrings forwarding 1 =
      .ok (some { groups := [[], ["USystem"]], externAliases := ["Za A", "Zb B"] }) := by
    rw [groupedStrings_of_outline outlineOf_forwarding rfl]
    rfl
  have first : forwarding.records 1 = [⟨1, 4, [2, 0, 0, 0]⟩] :=
    congrArg CustomInfo.Scan.records scan_forwarding_one
  have second : forwarding.records 2 = [⟨0, 4, [2, 0, 0, 0, 1, 0]⟩, ⟨2, 4, [3, 0, 0, 0]⟩] :=
    congrArg CustomInfo.Scan.records scan_forwarding_two
  have forwards : forwarding.firstForward? 1 = some 2 := by
    rw [MethodSource.firstForward?, first]
    decide
  have unsized : ¬forwarding.SizedFirst 1 := by
    rw [MethodSource.SizedFirst, first]
    decide
  have sizer : forwarding.sizer 1 = 2 := by
    rw [MethodSource.sizer, if_neg unsized, forwards]
    rfl
  obtain ⟨-, -, -, -, -, together, exactly⟩ := groupedStrings_sources forwarding 1 _ returned
  rw [sizer] at together exactly
  refine ⟨returned, together (exactly.mpr ?_)⟩
  intro target leads
  obtain rfl := Option.some.inj (forwards.symm.trans leads)
  rw [if_neg unsized, MethodSource.lastForward?, second]
  decide

/-- Three methods: the first one forwards to the second one, which has group sizes and forwards to
the third one. -/
def forwardingOn : MethodSource where
  customInfo? token :=
    if token = 1 then some [4, 0, 0, 0, 4, 1, 0, 0, 12, 0, 0, 0, 2, 0, 0, 0]
    else if token = 2 then
      some [4, 0, 0, 0, 4, 0, 0, 0, 12, 0, 0, 0, 1, 0, 1, 0, 4, 1, 0, 0, 12, 0, 0, 0, 3, 0, 0, 0]
    else none
  importStrings? token :=
    if token = 2 then some ["USystem"] else if token = 3 then some ["UOther"] else none

/-- The records of the second method give a size and name the third method. -/
theorem scan_forwardingOn :
    CustomInfo.scan [4, 0, 0, 0, 4, 0, 0, 0, 12, 0, 0, 0, 1, 0, 1, 0,
        4, 1, 0, 0, 12, 0, 0, 0, 3, 0, 0, 0] =
      ⟨[⟨0, 4, [1, 0, 1, 0]⟩, ⟨1, 4, [3, 0, 0, 0]⟩], none⟩ :=
  CustomInfo.scanRecords_eq_iff.mpr ⟨[⟨4, 0, 0, 0, [1, 0, 1, 0], by decide, by decide⟩,
    ⟨4, 1, 0, 0, [3, 0, 0, 0], by decide, by decide⟩], [], ⟨by decide, by decide⟩, by decide⟩

/-- The outline has the sizes of the second method and ends on the third one. -/
theorem outlineOf_forwardingOn :
    outlineOf forwardingOn 1 =
      .ok (some { token := 3, sizes? := some [1], followed := true }) := by
  have first : Outline.visit forwardingOn { token := 1 } =
      .ok (some ({ token := 2, followed := true }, true)) :=
    Outline.visit_of_scan rfl (List.cons_ne_nil _ _) scan_forwarding_one
  have second : Outline.visit forwardingOn { token := 2, followed := true } =
      .ok (some ({ token := 3, sizes? := some [1], followed := true }, false)) :=
    Outline.visit_of_scan rfl (List.cons_ne_nil _ _) scan_forwardingOn
  exact bind_eq_ok_iff.mpr ⟨_, first, bind_eq_ok_iff.mpr ⟨_, second, rfl⟩⟩

/-- A string of the third method is grouped by the sizes of the second one. -/
theorem groupedStrings_mixed :
    ¬∀ (source : MethodSource) (token : Int) (grouped : GroupedStrings),
      groupedStrings source token = .ok (some grouped) →
        ∃ method, FromMethod source token grouped method := by
  intro unmixed
  have returned : groupedStrings forwardingOn 1 =
      .ok (some { groups := [["UOther"]], externAliases := [] }) := by
    rw [groupedStrings_of_outline outlineOf_forwardingOn rfl]
    rfl
  have first : forwardingOn.records 1 = [⟨1, 4, [2, 0, 0, 0]⟩] :=
    congrArg CustomInfo.Scan.records scan_forwarding_one
  have forwards : forwardingOn.firstForward? 1 = some 2 := by
    rw [MethodSource.firstForward?, first]
    decide
  obtain ⟨method, reached, -, rest, joined⟩ := unmixed _ _ _ returned
  rw [forwards] at reached
  rcases reached with rfl | reached
  · exact absurd joined (by simp [MethodSource.strings, forwardingOn])
  · obtain rfl := Option.some.inj reached
    have heads : some (Text.ofString "USystem") = some (Text.ofString "UOther") :=
      congrArg List.head? joined
    exact absurd heads (by decide)

end DebugLens.Import
