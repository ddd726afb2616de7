/-!
# Association lists

Maps that remember the order in which their keys first came are association lists. Looking a key
up is `List.lookup`; assigning to a key that is there already changes its value in place.
-/
namespace DebugLens

/-- Assign a value to a key. -/
def assign {κ β : Type} [DecidableEq κ] (key : κ) (value : β) : List (κ × β) → List (κ × β)
  | [] => [(key, value)]
  | (other, old) :: entries =>
    if other = key then (key, value) :: entries else (other, old) :: assign key value entries

/-- Looking a key up compares it with the first key. -/
theorem lookup_cons_eq {κ β : Type} [BEq κ] [LawfulBEq κ] [DecidableEq κ] (key first : κ)
    (value : β)
    (entries : List (κ × β)) :
    ((first, value) :: entries).lookup key =
      if key = first then some value else entries.lookup key := by
  by_cases same : key = first
  · simp [same]
  · have differs : (key == first) = false := beq_eq_false_iff_ne.mpr same
    simp [List.lookup_cons, differs, same]

/-- Looking up an assigned key gives its new value, and other keys keep theirs. -/
theorem lookup_assign {κ β : Type} [BEq κ] [LawfulBEq κ] [DecidableEq κ] (key other : κ)
    (value : β)
    (entries : List (κ × β)) :
    (assign key value entries).lookup other =
      if other = key then some value else entries.lookup other := by
  induction entries with
  | nil => simp [assign, lookup_cons_eq]
  | cons entry entries hypothesis =>
    obtain ⟨first, old⟩ := entry
    by_cases here : first = key
    · subst here
      by_cases same : other = first <;> simp [assign, lookup_cons_eq, same]
    · by_cases found : other = first
      · subst found; simp [assign, here]
      · simp [assign, lookup_cons_eq, here, found, hypothesis]

/-- Assigning to a key puts it behind the keys that are there, unless it is one of them. -/
theorem keys_assign {κ β : Type} [DecidableEq κ] (key : κ) (value : β) (entries : List (κ × β)) :
    (assign key value entries).map Prod.fst =
      if key ∈ entries.map Prod.fst then entries.map Prod.fst
      else entries.map Prod.fst ++ [key] := by
  induction entries with
  | nil => rfl
  | cons entry entries hypothesis =>
    obtain ⟨first, old⟩ := entry
    by_cases here : first = key
    · subst here
      simp [assign]
    · have differs : key ≠ first := fun same => here same.symm
      simp only [assign, if_neg here, List.map_cons, hypothesis, List.mem_cons, differs, false_or]
      split <;> rfl

/-- Assigning to a key does not make any key stand twice. -/
theorem nodup_keys_assign {κ β : Type} [DecidableEq κ] (key : κ) (value : β)
    {entries : List (κ × β)} (distinct : (entries.map Prod.fst).Nodup) :
    ((assign key value entries).map Prod.fst).Nodup := by
  rw [keys_assign]
  split
  · exact distinct
  · next absent =>
    rw [List.nodup_append]
    refine ⟨distinct, List.nodup_cons.mpr ⟨List.not_mem_nil, List.nodup_nil⟩, ?_⟩
    intro other there last isLast same
    rw [same, List.mem_singleton.mp isLast] at there
    exact absent there

/-- Assigning to a key that is not there puts it last. -/
theorem assign_of_absent {κ β : Type} [DecidableEq κ] {key : κ} {entries : List (κ × β)}
    (absent : key ∉ entries.map Prod.fst) (value : β) :
    assign key value entries = entries ++ [(key, value)] := by
  induction entries with
  | nil => rfl
  | cons entry entries hypothesis =>
    obtain ⟨first, old⟩ := entry
    rw [List.map_cons, List.mem_cons, not_or] at absent
    rw [assign, if_neg fun same => absent.1 same.symm, hypothesis absent.2, List.cons_append]

/-- If no key stands twice, the entries are the keys with the values that are looked up. -/
theorem mem_iff_lookup {κ β : Type} [BEq κ] [LawfulBEq κ] [DecidableEq κ]
    {entries : List (κ × β)} (distinct : (entries.map Prod.fst).Nodup) (key : κ) (value : β) :
    (key, value) ∈ entries ↔ entries.lookup key = some value := by
  induction entries with
  | nil => simp
  | cons entry entries hypothesis =>
    obtain ⟨first, held⟩ := entry
    obtain ⟨absent, others⟩ := List.nodup_cons.mp distinct
    have further := hypothesis others
    rw [List.mem_cons, lookup_cons_eq, Prod.mk.injEq, further]
    by_cases same : key = first
    · subst same
      have unlisted : ¬entries.lookup key = some value := fun found =>
        absent (List.mem_map.mpr ⟨(key, value), further.mpr found, rfl⟩)
      simp [unlisted, eq_comm]
    · simp [same]

/-- If no key stands twice, the order of the entries has no bearing on what is looked up. -/
theorem lookup_perm {κ β : Type} [BEq κ] [LawfulBEq κ] [DecidableEq κ]
    {entries others : List (κ × β)} (permuted : entries.Perm others)
    (distinct : (entries.map Prod.fst).Nodup) (key : κ) :
    entries.lookup key = others.lookup key := by
  have distinctOthers := (permuted.map Prod.fst).nodup_iff.mp distinct
  apply Option.ext
  intro value
  rw [← mem_iff_lookup distinct, ← mem_iff_lookup distinctOthers, permuted.mem_iff]

/-- Keeping only some keys keeps their values, and the other keys have none. -/
theorem lookup_filter {κ β : Type} [BEq κ] [LawfulBEq κ] [DecidableEq κ] (keep : κ → Bool)
    (key : κ) (entries : List (κ × β)) :
    (entries.filter fun entry => keep entry.1).lookup key =
      if keep key then entries.lookup key else none := by
  induction entries with
  | nil => simp
  | cons entry entries hypothesis =>
    obtain ⟨first, value⟩ := entry
    rw [List.filter_cons, lookup_cons_eq]
    cases kept : keep first with
    | true =>
      rw [if_pos rfl, lookup_cons_eq, hypothesis]
      by_cases same : key = first
      · simp [same, kept]
      · simp [same]
    | false =>
      rw [if_neg Bool.false_ne_true, hypothesis]
      by_cases same : key = first
      · simp [same, kept]
      · simp [same]

end DebugLens
