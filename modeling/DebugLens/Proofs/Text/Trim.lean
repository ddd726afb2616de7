import DebugLens.Text.Blank
import Mathlib.Data.List.DropRight

/-!
# White space at the ends

Trimming takes a text no further than to its first and its last character that is not white
space, so a text is its own trimmed form if it starts and ends with such characters.
-/
namespace DebugLens.Text

/-- Dropping items at the end is dropping them from the right. -/
theorem dropEndWhile_eq {α : Type} (drop : α → Bool) (items : List α) :
    dropEndWhile drop items = items.rdropWhile drop := rfl

/-- Nothing is dropped from a list without items of the class. -/
theorem trimBoth_eq_self {α : Type} {drop : α → Bool} {items : List α}
    (kept : ∀ item ∈ items, drop item = false) : trimBoth drop items = items := by
  have front : items.dropWhile drop = items := by
    cases items with
    | nil => rfl
    | cons item items =>
      exact List.dropWhile_cons_of_neg (by simp [kept item List.mem_cons_self])
  unfold trimBoth
  rw [front, dropEndWhile_eq, List.rdropWhile_eq_self_iff]
  intro filled last
  rw [kept _ (List.getLast_mem filled)] at last
  contradiction

/-- The text does not start with white space, nor end with it. -/
def HasSolidEnds (text : Text) : Prop :=
  (∀ c ∈ text.head?, isBlank c = false) ∧ ∀ c ∈ text.getLast?, isBlank c = false

instance : DecidablePred HasSolidEnds := fun _ => inferInstanceAs (Decidable (_ ∧ _))

/-- A text without white space has solid ends. -/
theorem HasSolidEnds.of_solid {text : Text} (solid : ∀ c ∈ text, isBlank c = false) :
    HasSolidEnds text :=
  ⟨fun c first => solid c (List.mem_of_mem_head? first),
    fun c last => solid c (List.mem_of_mem_getLast? last)⟩

/-- A text without white space at its ends is its own trimmed form. -/
theorem trim_eq_self {text : Text} (solid : HasSolidEnds text) : trim text = text := by
  have front : text.dropWhile isBlank = text := by
    cases text with
    | nil => rfl
    | cons c rest => exact List.dropWhile_cons_of_neg (by simp [solid.1 c rfl])
  unfold trim trimBoth
  rw [front, dropEndWhile_eq, List.rdropWhile_eq_self_iff]
  intro filled blank
  exact Bool.eq_false_iff.mp (solid.2 _ (List.getLast?_eq_some_getLast filled)) blank

/-- Something is left of a text with a character that is not white space. -/
theorem trim_isEmpty_of_mem {text : Text} {c : CodePoint} (listed : c ∈ text)
    (solid : isBlank c = false) : (trim text).isEmpty = false := by
  have kept : c ∈ text.dropWhile isBlank := by
    rw [← List.takeWhile_append_dropWhile (p := isBlank) (l := text), List.mem_append] at listed
    refine listed.resolve_left fun blank => ?_
    rw [List.mem_takeWhile_imp blank] at solid
    contradiction
  rw [List.isEmpty_eq_false_iff]
  intro empty
  unfold trim trimBoth at empty
  rw [dropEndWhile_eq, List.rdropWhile_eq_nil_iff] at empty
  rw [empty c kept] at solid
  contradiction

/-- A text of which something is left has a character that is not white space. -/
theorem exists_solid_of_trim {text : Text} (filled : (trim text).isEmpty = false) :
    ∃ c ∈ text, isBlank c = false := by
  by_contra blank
  have dropped : text.dropWhile isBlank = [] := by
    rw [List.dropWhile_eq_nil_iff]
    intro c listed
    by_contra solid
    exact blank ⟨c, listed, Bool.eq_false_iff.mpr solid⟩
  unfold trim trimBoth at filled
  rw [dropped] at filled
  contradiction

/-- Trimming makes no text longer. -/
theorem length_trim_le (text : Text) : (trim text).length ≤ text.length := by
  have front := (List.dropWhile_suffix (l := text) isBlank).length_le
  have back := (List.rdropWhile_prefix isBlank (text.dropWhile isBlank)).length_le
  exact Nat.le_trans back front

/-- A last character that is not white space stays the last one. -/
theorem trim_append_singleton {c : CodePoint} (solid : isBlank c = false) (text : Text) :
    ∃ front, trim (text ++ [c]) = front ++ [c] := by
  have drops : ∃ front, (text ++ [c]).dropWhile isBlank = front ++ [c] := by
    rw [List.dropWhile_append]
    split
    · exact ⟨[], List.dropWhile_cons_of_neg (by simp [solid])⟩
    · exact ⟨_, rfl⟩
  obtain ⟨front, dropped⟩ := drops
  refine ⟨front, ?_⟩
  unfold trim trimBoth
  rw [dropped, dropEndWhile_eq]
  exact List.rdropWhile_concat_neg _ _ _ (by simp [solid])

end DebugLens.Text
