import DebugLens.Import.Directive
import DebugLens.Proofs.Text.Separator

/-!
# Fields around a separator

A text has two fields if a separator occurs in it and something follows the first one.
-/
namespace DebugLens.Import

variable {separator : Char}

/-- The fields of a text in which a separator occurs are in front of the first one and behind
it. -/
theorem fieldsAt?_append {before : Text} (undivided : .char separator ∉ before) (after : Text) :
    fieldsAt? separator (before ++ .char separator :: after) =
      if after = [] then none else some (before, after) := by
  unfold fieldsAt?
  rw [Text.span_append undivided]
  cases after <;> rfl

/-- A text without the separator has no fields. -/
theorem fieldsAt?_undivided {text : Text} (undivided : .char separator ∉ text) :
    fieldsAt? separator text = none := by
  unfold fieldsAt?
  rw [Text.span_eq_self undivided]

/-- Two fields around a separator make up a text if the separator does not occur in the first one
and the second one is not empty. -/
theorem fieldsAt?_eq_some_iff {text before after : Text} :
    fieldsAt? separator text = some (before, after) ↔
      text = before ++ .char separator :: after ∧ .char separator ∉ before ∧ after ≠ [] := by
  constructor
  · intro found
    by_cases occurs : CodePoint.char separator ∈ text
    · obtain ⟨front, rest, rfl, undivided⟩ := List.eq_append_cons_of_mem occurs
      rw [fieldsAt?_append undivided] at found
      split at found
      · contradiction
      · next present =>
        obtain ⟨rfl, rfl⟩ := Prod.mk.inj (Option.some.inj found)
        exact ⟨rfl, undivided, present⟩
    · rw [fieldsAt?_undivided occurs] at found
      contradiction
  · rintro ⟨rfl, undivided, present⟩
    rw [fieldsAt?_append undivided, if_neg present]

/-- There are no two fields if there is no separator or the first one ends the text. -/
theorem fieldsAt?_eq_none_iff {text : Text} :
    fieldsAt? separator text = none ↔
      .char separator ∉ text ∨
        ∃ before, text = before ++ [.char separator] ∧ .char separator ∉ before := by
  constructor
  · intro missing
    by_cases occurs : CodePoint.char separator ∈ text
    · obtain ⟨front, rest, rfl, undivided⟩ := List.eq_append_cons_of_mem occurs
      rw [fieldsAt?_append undivided] at missing
      split at missing
      · next ended => exact .inr ⟨front, by rw [ended], undivided⟩
      · contradiction
    · exact .inl occurs
  · rintro (undivided | ⟨before, rfl, undivided⟩)
    · exact fieldsAt?_undivided undivided
    · rw [fieldsAt?_append undivided, if_pos rfl]

end DebugLens.Import
