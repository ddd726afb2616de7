import DebugLens.Dump.Basic

/-!
# The methods of a dump

A dump is a map from tokens and versions to methods: adding a method changes what is found for its
own token and version and nothing else. If no two methods have both in common, the methods that can
be found are those that are listed, and the list is in strictly ascending order.
-/
namespace DebugLens.Dump

/-- Methods by token and version. -/
def methodEntries (methods : List Method) : List ((Int × Int) × Method) :=
  methods.map fun method => ((method.token, method.version), method)

/-- Adding a method assigns it to its token and version. -/
theorem methodEntries_putMethod (method : Method) (methods : List Method) :
    methodEntries (putMethod method methods) =
      assign (method.token, method.version) method (methodEntries methods) := by
  unfold methodEntries
  induction methods with
  | nil => rfl
  | cons first methods hypothesis =>
    rw [putMethod, List.map_cons, assign]
    by_cases same : first.token = method.token ∧ first.version = method.version
    · rw [if_pos same, if_pos (Prod.ext same.1 same.2)]
      rfl
    · rw [if_neg same, if_neg fun equal => same (Prod.ext_iff.mp equal)]
      rw [List.map_cons, hypothesis]

/-- A method is found by its token and version. -/
theorem method?_eq_lookup (dump : Dump) (token version : Int) :
    dump.method? token version = (methodEntries dump.methods).lookup (token, version) := by
  unfold method? methodEntries
  induction dump.methods with
  | nil => rfl
  | cons first methods hypothesis =>
    rw [List.map_cons, lookup_cons_eq, ← hypothesis]
    by_cases same : first.token = token ∧ first.version = version
    · rw [List.find?_cons_of_pos (by simp [same]), if_pos (by rw [same.1, same.2])]
    · have differs : (token, version) ≠ (first.token, first.version) := fun equal =>
        same ⟨(Prod.mk.inj equal).1.symm, (Prod.mk.inj equal).2.symm⟩
      rw [List.find?_cons_of_neg (by simpa using same), if_neg differs]

/-- A method that is added is found, and nothing changes for the others. -/
theorem method?_putMethod (dump : Dump) (method : Method) (token version : Int) :
    { dump with methods := putMethod method dump.methods }.method? token version =
      if (token, version) = (method.token, method.version) then some method
      else dump.method? token version := by
  rw [method?_eq_lookup, method?_eq_lookup, methodEntries_putMethod, lookup_assign]

/-! ## Methods in order -/

/-- The method comes first: it has the smaller token, or the same one and the smaller version. -/
def Before (left right : Method) : Prop :=
  left.token < right.token ∨ left.token = right.token ∧ left.version < right.version

variable {dump : Dump}

/-- The methods that are listed are those that are found under their own tokens and versions. -/
theorem mem_sortedMethods (distinct : ((methodEntries dump.methods).map Prod.fst).Nodup)
    (method : Method) :
    method ∈ dump.sortedMethods ↔ dump.method? method.token method.version = some method := by
  rw [method?_eq_lookup, ← mem_iff_lookup distinct]
  unfold sortedMethods methodEntries
  rw [(List.mergeSort_perm _ _).mem_iff, List.mem_map]
  constructor
  · exact fun listed => ⟨method, listed, rfl⟩
  · rintro ⟨other, listed, same⟩
    exact (Prod.mk.inj same).2 ▸ listed

/-- The order of methods: by token, then by version. -/
theorem precedes_iff {left right : Method} : precedes left right ↔
    left.token < right.token ∨ left.token = right.token ∧ left.version ≤ right.version := by
  simp [precedes]

/-- The methods are in order, whether or not two of them have the same token and version. -/
theorem ordered_sortedMethods (dump : Dump) :
    dump.sortedMethods.Pairwise fun left right => precedes left right := by
  apply List.pairwise_mergeSort
  · intro first second third
    rw [precedes_iff, precedes_iff, precedes_iff]
    omega
  · intro first second
    rw [Bool.or_eq_true, precedes_iff, precedes_iff]
    omega

/-- If no two methods have both in common, the methods are in strictly ascending order. -/
theorem pairwise_sortedMethods (distinct : ((methodEntries dump.methods).map Prod.fst).Nodup) :
    dump.sortedMethods.Pairwise Before := by
  have apart : dump.sortedMethods.Pairwise fun left right =>
      (left.token, left.version) ≠ (right.token, right.version) := by
    have keys : (dump.sortedMethods.map fun method => (method.token, method.version)).Nodup := by
      have perm := (List.mergeSort_perm dump.methods precedes).map fun method =>
        (method.token, method.version)
      unfold methodEntries at distinct
      rw [List.map_map] at distinct
      exact perm.nodup_iff.mpr distinct
    exact List.pairwise_map.mp keys
  refine (dump.ordered_sortedMethods.and apart).imp fun {left right} both => ?_
  obtain ⟨comes, differs⟩ := both
  rw [precedes_iff] at comes
  rw [ne_eq, Prod.mk.injEq] at differs
  unfold Before
  omega

end DebugLens.Dump
