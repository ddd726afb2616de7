import DebugLens.DynamicFlags
import DebugLens.Proofs.Refusal

/-!
# What a name stands for in slot zero

The kinds of names are collected by overwriting, but they only depend on numbers: on how many
constants have a name, and on whether the first local in slot zero has it. A bucket of slot zero is
dropped if its name is borne by two or more of these, and given to a constant if one constant
alone bears it. Locals in slot zero after the first one do not count, so a constant takes the
bucket of such a local if they have the same name.
-/
namespace DebugLens

open CustomInfo (DynamicBucket)

/-- The number of constants that bear a name. -/
def constantsNamed (scopes : List Scope) (name : Text) : Nat :=
  (scopes.flatMap Scope.constants).countP fun declaration => declaration.name = name

/-- The first local in slot zero bears a name. -/
def FirstLocalNamed (scopes : List Scope) (name : Text) : Prop :=
  (firstLocal? scopes).map LocalDeclaration.name = some name

instance (scopes : List Scope) (name : Text) : Decidable (FirstLocalNamed scopes name) :=
  inferInstanceAs (Decidable (_ = _))

/-- A single constant bears a name, and the first local in slot zero does not. -/
def IsLoneConstant (scopes : List Scope) (name : Text) : Prop :=
  constantsNamed scopes name = 1 ∧ ¬FirstLocalNamed scopes name

instance (scopes : List Scope) (name : Text) : Decidable (IsLoneConstant scopes name) :=
  inferInstanceAs (Decidable (_ ∧ _))

/-- Two or more bear a name, of the constants and the first local in slot zero. -/
def IsAmbiguous (scopes : List Scope) (name : Text) : Prop :=
  2 ≤ constantsNamed scopes name + if FirstLocalNamed scopes name then 1 else 0

instance (scopes : List Scope) (name : Text) : Decidable (IsAmbiguous scopes name) :=
  inferInstanceAs (Decidable (_ ≤ _))

/-! ## Kinds of names -/

/-- The kind of a name after some more constants that bear it. -/
def kindAfter : Nat → Option NameKind → Option NameKind
  | 0, kind? => kind?
  | 1, none => some .constant
  | _, _ => some .duplicate

/-- A constant makes a name with a kind a duplicate, and the constants after it do so anyway. -/
theorem kindAfter_succ (count : Nat) (kind? : Option NameKind) :
    kindAfter (count + 1) kind? =
      kindAfter count (some (if kind?.isSome then .duplicate else .constant)) := by
  cases count with
  | zero => cases kind? <;> rfl
  | succ count => cases count <;> cases kind? <;> rfl

/-- The kind of a name after declarations depends on how many of them bear it. -/
theorem lookup_foldl_classifyConstant (declarations : List ConstantDeclaration)
    (kinds : List (Text × NameKind)) (name : Text) :
    (declarations.foldl classifyConstant kinds).lookup name =
      kindAfter (declarations.countP fun declaration => declaration.name = name)
        (kinds.lookup name) := by
  induction declarations generalizing kinds with
  | nil => rfl
  | cons declaration declarations hypothesis =>
    rw [List.foldl_cons, hypothesis, List.countP_cons]
    unfold classifyConstant
    rw [lookup_assign]
    by_cases same : declaration.name = name
    · subst same
      simp only [decide_true, if_true, kindAfter_succ]
    · have other : ¬name = declaration.name := fun equal => same equal.symm
      simp only [same, other, decide_false, if_false, Bool.false_eq_true, Nat.add_zero]

/-- The kind of a name depends on how many constants bear it and on whether the first local in
slot zero does. -/
theorem lookup_nameKinds (scopes : List Scope) (name : Text) :
    (nameKinds scopes).lookup name =
      kindAfter (constantsNamed scopes name)
        (if FirstLocalNamed scopes name then some .localVariable else none) := by
  unfold nameKinds constantsNamed
  rw [lookup_foldl_classifyConstant]
  congr 1
  by_cases named : FirstLocalNamed scopes name
  · obtain ⟨declaration, first, rfl⟩ := Option.map_eq_some_iff.mp named
    rw [if_pos named, first, Option.toList_some, List.map_singleton, lookup_cons_eq, if_pos rfl]
  · rw [if_neg named]
    cases first : firstLocal? scopes with
    | none => rfl
    | some declaration =>
      have other : name ≠ declaration.name := by
        intro same
        apply named
        rw [FirstLocalNamed, first, same, Option.map_some]
      rw [Option.toList_some, List.map_singleton, lookup_cons_eq, if_neg other, List.lookup_nil]

/-! ## Buckets -/

/-- The bucket as that of a constant. -/
def CustomInfo.DynamicBucket.toConstant (bucket : DynamicBucket) : DynamicBucket :=
  { bucket with slot := constantSlot }

/-- The bucket as it is kept: as that of a constant if a single constant bears its name. -/
def attributed (scopes : List Scope) (bucket : DynamicBucket) : DynamicBucket :=
  if bucket.slot = 0 ∧ IsLoneConstant scopes bucket.name then bucket.toConstant else bucket

/-- A bucket keeps its name. -/
theorem attributed_name (scopes : List Scope) (bucket : DynamicBucket) :
    (attributed scopes bucket).name = bucket.name := by
  unfold attributed
  split <;> rfl

/-- A bucket keeps its flags. -/
theorem attributed_flagList (scopes : List Scope) (bucket : DynamicBucket) :
    (attributed scopes bucket).flagList = bucket.flagList := by
  unfold attributed
  split <;> rfl

/-- The slot of a bucket as it is kept. -/
theorem attributed_slot (scopes : List Scope) (bucket : DynamicBucket) :
    (attributed scopes bucket).slot =
      if bucket.slot = 0 ∧ IsLoneConstant scopes bucket.name then constantSlot
      else bucket.slot := by
  unfold attributed
  split <;> rfl

/-- A bucket is kept in the slot where it is stored exactly if it is not that of a lone constant. -/
theorem attributed_slot_eq_iff (scopes : List Scope) (bucket : DynamicBucket) {slot : Int}
    (present : 0 ≤ slot) :
    (attributed scopes bucket).slot = slot ↔
      bucket.slot = slot ∧ ¬(slot = 0 ∧ IsLoneConstant scopes bucket.name) := by
  have moved : constantSlot < 0 := by decide
  rw [attributed_slot]
  split
  · next taken =>
    obtain ⟨shared, lone⟩ := taken
    constructor
    · omega
    · rintro ⟨rfl, settled⟩
      exact absurd ⟨shared, lone⟩ settled
  · next settled =>
    constructor
    · rintro rfl
      exact ⟨rfl, settled⟩
    · exact And.left

/-- A bucket is kept for a constant exactly if it is that of a lone constant. -/
theorem attributed_slot_neg_iff (scopes : List Scope) {bucket : DynamicBucket}
    (present : 0 ≤ bucket.slot) :
    (attributed scopes bucket).slot < 0 ↔
      bucket.slot = 0 ∧ IsLoneConstant scopes bucket.name := by
  have moved : constantSlot < 0 := by decide
  rw [attributed_slot]
  split
  · next taken => exact iff_of_true moved taken
  · next settled => exact iff_of_false (Int.not_lt.mpr present) settled

/-- A bucket is dropped if it is in slot zero and its name is ambiguous. -/
theorem attribute?_nameKinds (scopes : List Scope) (bucket : DynamicBucket) :
    attribute? (nameKinds scopes) bucket =
      if bucket.slot = 0 ∧ IsAmbiguous scopes bucket.name then none
      else some (attributed scopes bucket) := by
  unfold attribute? attributed IsAmbiguous IsLoneConstant
  by_cases shared : bucket.slot = 0
  · rw [if_pos shared, lookup_nameKinds]
    simp only [shared, true_and]
    match constantsNamed scopes bucket.name with
    | 0 => by_cases first : FirstLocalNamed scopes bucket.name <;> simp [first, kindAfter]
    | 1 =>
      by_cases first : FirstLocalNamed scopes bucket.name
      · simp [first, kindAfter]
      · simp [first, kindAfter, DynamicBucket.toConstant]
    | count + 2 =>
      have many : 2 ≤ count + 2 + if FirstLocalNamed scopes bucket.name then 1 else 0 := by omega
      simp [many, kindAfter]
  · simp [shared]

/-- The buckets that are kept, in order. -/
theorem attributeAll_eq (scopes : List Scope) (buckets : List DynamicBucket) :
    attributeAll scopes buckets =
      (buckets.filter fun bucket => ¬(bucket.slot = 0 ∧ IsAmbiguous scopes bucket.name)).map
        (attributed scopes) := by
  apply filterMap_eq_map_filter
  intro bucket
  rw [attribute?_nameKinds, ite_not]

/-! ## What is kept for a constant and what is dropped -/

/-- A local in slot zero of some scope bears a name. -/
def SlotZeroNamed (scopes : List Scope) (name : Text) : Prop :=
  ∃ scope ∈ scopes, ∃ declaration ∈ scope.locals, declaration.slot = 0 ∧ declaration.name = name

/-- A bucket with a name is kept as that of a constant. -/
def KeptForConstant (scopes : List Scope) (buckets : List DynamicBucket) (name : Text) : Prop :=
  ∃ kept ∈ attributeAll scopes buckets, kept.slot = constantSlot ∧ kept.name = name

/-- The buckets of slot zero with a name are dropped: none is kept there or as that of a constant. -/
def AllDropped (scopes : List Scope) (buckets : List DynamicBucket) (name : Text) : Prop :=
  ∀ kept ∈ attributeAll scopes buckets, kept.name = name → 0 < kept.slot

/-- A bucket is kept exactly if it is what becomes of one that is not dropped. -/
theorem mem_attributeAll_iff {scopes : List Scope} {buckets : List DynamicBucket}
    {kept : DynamicBucket} :
    kept ∈ attributeAll scopes buckets ↔
      ∃ bucket ∈ buckets, ¬(bucket.slot = 0 ∧ IsAmbiguous scopes bucket.name) ∧
        attributed scopes bucket = kept := by
  simp only [attributeAll_eq, List.mem_map, List.mem_filter, decide_eq_true_eq, and_assoc]

/-- The name of a single constant is not ambiguous. -/
theorem IsLoneConstant.not_isAmbiguous {scopes : List Scope} {name : Text}
    (lone : IsLoneConstant scopes name) : ¬IsAmbiguous scopes name := by
  obtain ⟨single, unnamed⟩ := lone
  unfold IsAmbiguous
  rw [single, if_neg unnamed]
  omega

section Stored

variable {scopes : List Scope} {buckets : List DynamicBucket} {name : Text}

/-- Buckets as they are stored are in no negative slot, so those kept for a constant come from slot
zero and have the name of a lone constant. -/
theorem keptForConstant_iff (stored : ∀ bucket ∈ buckets, 0 ≤ bucket.slot) :
    KeptForConstant scopes buckets name ↔
      (∃ bucket ∈ buckets, bucket.slot = 0 ∧ bucket.name = name) ∧
        IsLoneConstant scopes name := by
  constructor
  · rintro ⟨kept, member, moved, rfl⟩
    obtain ⟨bucket, listed, -, rfl⟩ := mem_attributeAll_iff.mp member
    have negative : (attributed scopes bucket).slot < 0 := by
      rw [moved]
      decide
    have taken := (attributed_slot_neg_iff scopes (stored bucket listed)).mp negative
    rw [attributed_name]
    exact ⟨⟨bucket, listed, taken.1, rfl⟩, taken.2⟩
  · rintro ⟨⟨bucket, listed, shared, rfl⟩, lone⟩
    have moved : attributed scopes bucket = bucket.toConstant := if_pos ⟨shared, lone⟩
    refine ⟨bucket.toConstant, mem_attributeAll_iff.mpr ⟨bucket, listed, ?_, moved⟩, rfl, rfl⟩
    exact fun dropped => lone.not_isAmbiguous dropped.2

/-- All buckets of slot zero with a name are dropped exactly if there are none or the name is
ambiguous. -/
theorem allDropped_iff (stored : ∀ bucket ∈ buckets, 0 ≤ bucket.slot) :
    AllDropped scopes buckets name ↔
      ∀ bucket ∈ buckets, bucket.slot = 0 → bucket.name = name → IsAmbiguous scopes name := by
  constructor
  · rintro dropped bucket listed shared rfl
    refine Decidable.byContradiction fun clear => ?_
    have kept : attributed scopes bucket ∈ attributeAll scopes buckets :=
      mem_attributeAll_iff.mpr ⟨bucket, listed, fun both => clear both.2, rfl⟩
    have positive := dropped _ kept (attributed_name scopes bucket)
    rw [attributed_slot] at positive
    split at positive
    · exact absurd positive (show ¬0 < constantSlot by decide)
    · omega
  · rintro ambiguous kept member rfl
    obtain ⟨bucket, listed, present, rfl⟩ := mem_attributeAll_iff.mp member
    have least := stored bucket listed
    by_cases shared : bucket.slot = 0
    · have dropped := ambiguous bucket listed shared (attributed_name scopes bucket).symm
      rw [attributed_name] at dropped
      exact absurd ⟨shared, dropped⟩ present
    · have unmoved : attributed scopes bucket = bucket := if_neg fun both => shared both.1
      rw [unmoved]
      omega

/-- A bucket of slot zero is kept for a constant exactly if its name is that of a single constant
and not of the first local in slot zero, and all those with a name are dropped exactly if two or
more of the constants and that local bear it. So no constant takes the bucket of a local in slot
zero exactly if each bucket with the name of a single constant and of a local in slot zero has the
name of the first such local, and just then all buckets of names that are borne twice are dropped.
-/
theorem constant_attribution_exact (stored : ∀ bucket ∈ buckets, 0 ≤ bucket.slot) :
    (∀ name, KeptForConstant scopes buckets name ↔
      (∃ bucket ∈ buckets, bucket.slot = 0 ∧ bucket.name = name) ∧
        constantsNamed scopes name = 1 ∧ ¬FirstLocalNamed scopes name) ∧
    (∀ name, AllDropped scopes buckets name ↔
      ∀ bucket ∈ buckets, bucket.slot = 0 → bucket.name = name → IsAmbiguous scopes name) ∧
    ((∀ name, KeptForConstant scopes buckets name →
        constantsNamed scopes name = 1 ∧ ¬SlotZeroNamed scopes name) ↔
      ∀ bucket ∈ buckets, bucket.slot = 0 → constantsNamed scopes bucket.name = 1 →
        SlotZeroNamed scopes bucket.name → FirstLocalNamed scopes bucket.name) ∧
    ((∀ name, 2 ≤ constantsNamed scopes name ∨
        1 ≤ constantsNamed scopes name ∧ SlotZeroNamed scopes name →
          AllDropped scopes buckets name) ↔
      ∀ bucket ∈ buckets, bucket.slot = 0 → constantsNamed scopes bucket.name = 1 →
        SlotZeroNamed scopes bucket.name → FirstLocalNamed scopes bucket.name) := by
  refine ⟨fun name => keptForConstant_iff stored, fun name => allDropped_iff stored, ?_, ?_⟩
  · constructor
    · intro law bucket listed shared single occupied
      refine Decidable.byContradiction fun later => ?_
      have kept : KeptForConstant scopes buckets bucket.name :=
        (keptForConstant_iff stored).mpr ⟨⟨bucket, listed, shared, rfl⟩, single, later⟩
      exact (law _ kept).2 occupied
    · intro first name kept
      obtain ⟨⟨bucket, listed, shared, rfl⟩, single, unnamed⟩ :=
        (keptForConstant_iff stored).mp kept
      exact ⟨single, fun occupied => unnamed (first bucket listed shared single occupied)⟩
  · constructor
    · intro law bucket listed shared single occupied
      have dropped := law bucket.name (.inr ⟨Nat.le_of_eq single.symm, occupied⟩)
      have ambiguous := (allDropped_iff stored).mp dropped bucket listed shared rfl
      refine Decidable.byContradiction fun later => ?_
      exact (IsLoneConstant.not_isAmbiguous ⟨single, later⟩) ambiguous
    · intro first name borne
      rw [allDropped_iff stored]
      rintro bucket listed shared rfl
      unfold IsAmbiguous
      rcases borne with many | ⟨some, occupied⟩
      · omega
      · by_cases single : constantsNamed scopes bucket.name = 1
        · rw [if_pos (first bucket listed shared single occupied)]
          omega
        · omega

end Stored

/-- Three scopes: the first two have a local in slot zero each, and constants bear the names of
both of them and one more name. -/
def reusedSlot : List Scope := [
  .node 0 8 [{ name := [.char 'a'], slot := 0, attributes := 0 }]
    [{ name := [.char 'c'], value := .null, signature := [] }] [],
  .node 8 16 [{ name := [.char 'b'], slot := 0, attributes := 0 }] [] [],
  .node 16 24 []
    [{ name := [.char 'a'], value := .null, signature := [] },
      { name := [.char 'b'], value := .null, signature := [] }] []]

/-- A bucket of slot zero with one flag. -/
def sharedBucket (name : Char) : DynamicBucket where
  flagCount := 1
  flags := 1
  slot := 0
  name := [.char name]

/-- The bucket of the first local is dropped, and that of the constant with a name of its own is
kept for it. -/
theorem constant_attribution_reusedSlot :
    AllDropped reusedSlot [sharedBucket 'a', sharedBucket 'b', sharedBucket 'c'] [.char 'a'] ∧
      KeptForConstant reusedSlot [sharedBucket 'a', sharedBucket 'b', sharedBucket 'c']
        [.char 'c'] := by
  have present : ∀ bucket ∈ [sharedBucket 'a', sharedBucket 'b', sharedBucket 'c'],
      0 ≤ bucket.slot := by decide
  obtain ⟨kept, dropped, -, -⟩ := @constant_attribution_exact reusedSlot _ present
  refine ⟨(dropped _).mpr fun _ _ _ _ => by decide, (kept _).mpr ⟨?_, by decide, by decide⟩⟩
  exact ⟨sharedBucket 'c', by simp, rfl, rfl⟩

/-- A constant takes the bucket of a local in slot zero that is not the first one. -/
theorem local_bucket_taken :
    ¬∀ (scopes : List Scope) (buckets : List DynamicBucket),
      (∀ bucket ∈ buckets, 0 ≤ bucket.slot) → ∀ name, KeptForConstant scopes buckets name →
        constantsNamed scopes name = 1 ∧ ¬SlotZeroNamed scopes name := by
  intro law
  have kept : KeptForConstant reusedSlot [sharedBucket 'b'] [.char 'b'] := by
    rw [keptForConstant_iff (by decide)]
    exact ⟨⟨_, .head _, rfl, rfl⟩, by decide⟩
  have occupied : SlotZeroNamed reusedSlot [.char 'b'] :=
    ⟨_, .tail _ (.head _), _, .head _, rfl, rfl⟩
  exact (law reusedSlot [sharedBucket 'b'] (by decide) _ kept).2 occupied

end DebugLens
