import DebugLens.Text.CodePoint
import Mathlib.Data.List.TakeDrop
import Mathlib.Data.List.TakeWhile

/-!
# The first separator of a text

A text is divided at the first place where a separator stands. What stands in front of it has no
separator in it, and a text without one is not divided at all.
-/
namespace DebugLens.Text

variable {separator : CodePoint}

/-- A text without the separator is passed as a whole. -/
theorem passed_of_undivided {text : Text} (undivided : separator ∉ text) :
    ∀ c ∈ text, decide (c ≠ separator) = true := by
  intro c listed
  rw [decide_eq_true_iff]
  rintro rfl
  exact undivided listed

/-- A text is divided at the first separator. -/
theorem span_append {before : Text} (undivided : separator ∉ before) (after : Text) :
    (before ++ separator :: after).span (· ≠ separator) = (before, separator :: after) := by
  have passed := passed_of_undivided undivided
  rw [List.span_eq_takeWhile_dropWhile, List.takeWhile_append_of_pos passed,
    List.dropWhile_append_of_pos passed]
  simp

/-- A text without separators is not divided. -/
theorem span_eq_self {text : Text} (undivided : separator ∉ text) :
    text.span (· ≠ separator) = (text, []) := by
  have passed := passed_of_undivided undivided
  rw [List.span_eq_takeWhile_dropWhile, List.takeWhile_eq_self_iff.mpr passed,
    List.dropWhile_eq_nil_iff.mpr passed]

end DebugLens.Text
