import DebugLens.Import.Grouping
import DebugLens.Proofs.Refusal

/-!
# The records behind an outline

Reading the records of a method stops at its first forward record and goes on with all records of
the method that it names. The records passed on the way determine the outline: the last forward
record among them names the method it ends on, and there is at most one record with group sizes
and at most one that names a method with extern aliases.
-/
namespace DebugLens.Import

/-- The group sizes that a record gives. -/
def sizesOf? (record : CustomInfo.Record) : Option (List Nat) :=
  if record.kind = CustomInfo.Kind.usingGroups.code then
    (CustomInfo.groupSizes record.data).toOption
  else none

/-- The method that a record forwards to. -/
def forwardOf? (record : CustomInfo.Record) : Option Int :=
  if record.kind = CustomInfo.Kind.forward.code then
    (CustomInfo.forwardTarget record.data).toOption
  else none

/-- The method whose extern aliases a record refers to. -/
def moduleOf? (record : CustomInfo.Record) : Option Int :=
  if record.kind = CustomInfo.Kind.forwardToModule.code then
    (CustomInfo.forwardTarget record.data).toOption
  else none

/-- The records up to the first one that forwards. -/
def throughForward : List CustomInfo.Record → List CustomInfo.Record
  | [] => []
  | record :: records =>
    if (forwardOf? record).isSome then [record] else record :: throughForward records

namespace MethodSource

/-- The import strings of a method, none if it has none. -/
def strings (source : MethodSource) (token : Int) : List Text :=
  (source.importStrings? token).getD []

/-- The records of a method, up to the first fault of its custom debug info. -/
def records (source : MethodSource) (token : Int) : List CustomInfo.Record :=
  match source.customInfo? token with
  | none => []
  | some blob => (CustomInfo.scan blob).records

/-- The records that are passed: those of a method, up to one that forwards, and all those of the
method that it names. -/
def passed (source : MethodSource) (token : Int) : List CustomInfo.Record :=
  match (source.records token).findSome? forwardOf? with
  | none => source.records token
  | some target => throughForward (source.records token) ++ source.records target

/-- The method that the last forward record passed names, or else the first method itself. -/
def endToken (source : MethodSource) (token : Int) : Int :=
  (((source.passed token).filterMap forwardOf?).getLast?).getD token

end MethodSource

/-- The only forward record that is passed before handing over is the first one. -/
theorem filterMap_throughForward (records : List CustomInfo.Record) :
    (throughForward records).filterMap forwardOf? = (records.findSome? forwardOf?).toList := by
  induction records with
  | nil => rfl
  | cons record records hypothesis =>
    cases target : forwardOf? record with
    | none => simp [throughForward, target, hypothesis]
    | some token => simp [throughForward, target]

namespace Outline

/-- What a record does to an outline, and whether it hands over. -/
inductive Step (source : MethodSource) (outline : Outline) (record : CustomInfo.Record) :
    Outline → Bool → Prop where
  /-- The record gives the first group sizes. -/
  | sized {sizes : List Nat} (first : outline.sizes? = none) (given : sizesOf? record = some sizes)
    (unforwarded : forwardOf? record = none) (unowned : moduleOf? record = none) :
    Step source outline record { outline with sizes? := some sizes } false
  /-- The record forwards to another method, which is followed only once. -/
  | forwarded {target : Int} (given : forwardOf? record = some target)
    (unsized : sizesOf? record = none) (unowned : moduleOf? record = none) :
    Step source outline record { outline with token := target, followed := true } !outline.followed
  /-- The record names the first method with extern aliases. -/
  | aliased {owner : Int} (first : outline.moduleAliases? = none)
    (given : moduleOf? record = some owner) (unsized : sizesOf? record = none)
    (unforwarded : forwardOf? record = none) :
    Step source outline record
      { outline with
        moduleAliases? := some ((source.strings owner).filter CSharp.isExternAlias) } false
  /-- The record says nothing about imports. -/
  | ignored (unsized : sizesOf? record = none) (unforwarded : forwardOf? record = none)
    (unowned : moduleOf? record = none) : Step source outline record outline false

/-- A record that is read without a fault does one of these. -/
theorem step_cases {source : MethodSource} {outline next : Outline} {record : CustomInfo.Record}
    {handsOver : Bool} (read : outline.step source record = .ok (next, handsOver)) :
    Step source outline record next handsOver := by
  unfold step at read
  split at read
  · next kind =>
    have unforwarded : forwardOf? record = none := by simp [forwardOf?, kind, CustomInfo.Kind.code]
    have unowned : moduleOf? record = none := by simp [moduleOf?, kind, CustomInfo.Kind.code]
    split at read
    · contradiction
    · next first =>
      obtain ⟨sizes, decoded, made⟩ := bind_eq_ok_iff.mp read
      obtain ⟨rfl, rfl⟩ := Prod.mk.inj (Except.ok.inj made)
      have given : sizesOf? record = some sizes := by
        rw [sizesOf?, if_pos kind, decoded]
        rfl
      exact .sized first given unforwarded unowned
  · split at read
    · next kind =>
      have unsized : sizesOf? record = none := by simp [sizesOf?, kind, CustomInfo.Kind.code]
      have unowned : moduleOf? record = none := by simp [moduleOf?, kind, CustomInfo.Kind.code]
      split at read
      · contradiction
      · obtain ⟨target, decoded, made⟩ := bind_eq_ok_iff.mp read
        obtain ⟨rfl, rfl⟩ := Prod.mk.inj (Except.ok.inj made)
        have given : forwardOf? record = some target := by
          rw [forwardOf?, if_pos kind, decoded]
          rfl
        exact .forwarded given unsized unowned
    · split at read
      · next kind =>
        have unsized : sizesOf? record = none := by simp [sizesOf?, kind, CustomInfo.Kind.code]
        have unforwarded : forwardOf? record = none := by
          simp [forwardOf?, kind, CustomInfo.Kind.code]
        split at read
        · contradiction
        · next first =>
          obtain ⟨owner, decoded, made⟩ := bind_eq_ok_iff.mp read
          obtain ⟨rfl, rfl⟩ := Prod.mk.inj (Except.ok.inj made)
          have given : moduleOf? record = some owner := by
            rw [moduleOf?, if_pos kind, decoded]
            rfl
          exact .aliased first given unsized unforwarded
      · next noSizes noForward noModule =>
        obtain ⟨rfl, rfl⟩ := Prod.mk.inj (Except.ok.inj read)
        exact .ignored (if_neg noSizes) (if_neg noForward) (if_neg noModule)

/-- The outline is what the records passed, beginning with those of a method, say. -/
structure Traced (source : MethodSource) (token : Int) (passed : List CustomInfo.Record)
    (outline : Outline) : Prop where
  /-- The last record that forwards names the method. -/
  token_eq : outline.token = ((passed.filterMap forwardOf?).getLast?).getD token
  /-- A forward is followed if some record forwards. -/
  followed_eq : outline.followed = !(passed.filterMap forwardOf?).isEmpty
  /-- At most one record gives sizes. -/
  sizes_eq : passed.filterMap sizesOf? = outline.sizes?.toList
  /-- The first record that names a method with extern aliases gives these. -/
  aliases_eq : outline.moduleAliases? = (passed.findSome? moduleOf?).map fun owner =>
    (source.strings owner).filter CSharp.isExternAlias

variable {source : MethodSource} {token : Int} {passed : List CustomInfo.Record}

/-- No record has been passed in the beginning. -/
theorem traced_start (source : MethodSource) (token : Int) : Traced source token [] { token } :=
  ⟨rfl, rfl, rfl, rfl⟩

/-- Passing one more record keeps that the outline is what the records passed say. -/
theorem Traced.step {outline next : Outline} {record : CustomInfo.Record} {handsOver : Bool}
    (traced : Traced source token passed outline)
    (step : Step source outline record next handsOver) :
    Traced source token (passed ++ [record]) next := by
  obtain ⟨token_eq, followed_eq, sizes_eq, aliases_eq⟩ := traced
  cases step with
  | sized first given unforwarded unowned =>
    rw [first] at sizes_eq
    constructor
    · simpa [unforwarded] using token_eq
    · simpa [unforwarded] using followed_eq
    · simp [given, sizes_eq]
    · simpa [unowned, List.findSome?_append] using aliases_eq
  | forwarded given unsized unowned =>
    constructor
    · simp [given]
    · simp [given]
    · simpa [unsized] using sizes_eq
    · simpa [unowned, List.findSome?_append] using aliases_eq
  | aliased first given unsized unforwarded =>
    rw [first, eq_comm, Option.map_eq_none_iff] at aliases_eq
    constructor
    · simpa [unforwarded] using token_eq
    · simpa [unforwarded] using followed_eq
    · simpa [unsized] using sizes_eq
    · simp [given, aliases_eq, List.findSome?_append]
  | ignored unsized unforwarded unowned =>
    constructor
    · simpa [unforwarded] using token_eq
    · simpa [unforwarded] using followed_eq
    · simpa [unsized] using sizes_eq
    · simpa [unowned, List.findSome?_append] using aliases_eq

/-- A step hands over exactly at a record that forwards while none has been followed, and it
follows a forward if the record forwards. -/
theorem Step.handsOver_eq {outline next : Outline} {record : CustomInfo.Record} {handsOver : Bool}
    (step : Step source outline record next handsOver) :
    handsOver = (!outline.followed && (forwardOf? record).isSome) ∧
      next.followed = (outline.followed || (forwardOf? record).isSome) := by
  cases step with
  | sized first given unforwarded unowned => simp [unforwarded]
  | forwarded given unsized unowned => simp [given]
  | aliased first given unsized unforwarded => simp [unforwarded]
  | ignored unsized unforwarded unowned => simp [unforwarded]

/-- Reading records hands over exactly at the first one that forwards while none has been
followed, and passes the records up to there. -/
theorem Traced.steps {outline next : Outline} {records : List CustomInfo.Record}
    {fault? : Option CustomInfoError} {handsOver : Bool}
    (traced : Traced source token passed outline)
    (read : outline.steps source fault? records = .ok (next, handsOver)) :
    handsOver = (!outline.followed && (records.findSome? forwardOf?).isSome) ∧
      Traced source token
        (passed ++ if handsOver then throughForward records else records) next := by
  induction records generalizing passed outline with
  | nil =>
    cases fault? with
    | some fault => contradiction
    | none =>
      obtain ⟨rfl, rfl⟩ := Prod.mk.inj (Except.ok.inj read)
      simpa using traced
  | cons record records hypothesis =>
    obtain ⟨⟨middle, now⟩, step, read⟩ := bind_eq_ok_iff.mp read
    have moved := step_cases step
    have passedOne := traced.step moved
    obtain ⟨now_eq, followed_eq⟩ := moved.handsOver_eq
    cases now with
    | true =>
      obtain ⟨rfl, rfl⟩ := Prod.mk.inj (Except.ok.inj read)
      simp only [Bool.true_eq, Bool.and_eq_true, Bool.not_eq_true'] at now_eq
      obtain ⟨target, forwards⟩ := Option.isSome_iff_exists.mp now_eq.2
      simpa [throughForward, forwards, now_eq.1] using passedOne
    | false =>
      obtain ⟨over_eq, passedAll⟩ := hypothesis passedOne read
      rw [List.append_assoc] at passedAll
      rw [followed_eq] at over_eq
      cases forwards : forwardOf? record with
      | some target =>
        -- A record that forwards is passed only when a forward has been followed already.
        simp only [forwards, Option.isSome_some, Bool.and_true, Bool.false_eq,
          Bool.not_eq_false'] at now_eq
        simp only [now_eq, Bool.true_or, Bool.not_true, Bool.false_and] at over_eq
        subst over_eq
        simpa [now_eq] using passedAll
      | none =>
        simp only [forwards, Option.isSome_none, Bool.or_false] at over_eq
        refine ⟨by simpa [forwards] using over_eq, ?_⟩
        cases handsOver with
        | true => simpa [throughForward, forwards] using passedAll
        | false => simpa using passedAll

/-- Visiting a method reads its records. -/
theorem steps_of_visit {outline next : Outline} {handsOver : Bool}
    (visited : outline.visit source = .ok (some (next, handsOver))) :
    ∃ fault?, outline.steps source fault? (source.records outline.token) =
      .ok (next, handsOver) := by
  unfold visit at visited
  split at visited
  · exact nomatch visited
  · exact nomatch visited
  · next blob _ found =>
    obtain ⟨result, read, same⟩ := map_eq_ok_iff.mp visited
    obtain rfl := Option.some.inj same
    refine ⟨(CustomInfo.scan blob).fault?, ?_⟩
    rw [MethodSource.records, found]
    exact read

end Outline

/-- The outline of a method is what the records passed say. -/
theorem outlineOf_traced {source : MethodSource} {token : Int} {outline : Outline}
    (finished : outlineOf source token = .ok (some outline)) :
    Outline.Traced source token (source.passed token) outline := by
  obtain ⟨visited?, first, finished⟩ := bind_eq_ok_iff.mp finished
  split at finished
  · exact nomatch finished
  · next only =>
    obtain rfl := Option.some.inj (Except.ok.inj finished)
    obtain ⟨_, read⟩ := Outline.steps_of_visit first
    obtain ⟨over_eq, traced⟩ := (Outline.traced_start source token).steps read
    have unforwarded : (source.records token).findSome? forwardOf? = none := by
      simpa using over_eq
    simpa [MethodSource.passed, unforwarded] using traced
  · next middle =>
    obtain ⟨_, read⟩ := Outline.steps_of_visit first
    obtain ⟨over_eq, traced⟩ := (Outline.traced_start source token).steps read
    obtain ⟨target, forwards⟩ : ∃ target,
        (source.records token).findSome? forwardOf? = some target := by
      simpa [Option.isSome_iff_exists] using over_eq
    simp only [↓reduceIte, List.nil_append] at traced
    have only := filterMap_throughForward (source.records token)
    rw [forwards] at only
    have followed : middle.followed = true := by simp [traced.followed_eq, only]
    have named : middle.token = target := by simp [traced.token_eq, only]
    obtain ⟨visited?, second, finished⟩ := bind_eq_ok_iff.mp finished
    obtain ⟨⟨last, handsOver⟩, rfl, rfl⟩ := Option.map_eq_some_iff.mp (Except.ok.inj finished)
    obtain ⟨_, readOn⟩ := Outline.steps_of_visit second
    obtain ⟨stays, tracedOn⟩ := traced.steps readOn
    -- With a forward followed, the records of the second method are all read.
    rw [followed, Bool.not_true, Bool.false_and] at stays
    subst stays
    simpa [MethodSource.passed, forwards, named] using tracedOn

end DebugLens.Import
