import Mathlib.Algebra.BigOperators.Group.List.Basic
import Mathlib.Algebra.GroupWithZero.Nat
import Mathlib.Data.List.Lex
import DebugLens.Calendar

/-!
# Time elapsed since the start of the calendar

The days before a date are counted year by year and month by month, and the time before an instant
in microseconds. Of two instants, the one with the lesser fields is the earlier one, the year
counting most and the microsecond least. So no two instants lie equally far from the start.
-/
namespace DebugLens.DateTime

/-! ## Years and months -/

/-- The number of days in all years before a year. -/
def daysInYearsBefore (year : Nat) : Nat :=
  ((List.range (year - 1)).map fun index => daysInYear (index + 1)).sum

/-- The number of days in a month. -/
def daysInMonth (year month : Nat) : Nat := (monthLengths year).getD (month - 1) 0

/-- The number of days in all months of a year before a month. -/
def daysInMonthsBefore (year month : Nat) : Nat := ((monthLengths year).take (month - 1)).sum

/-- One more year adds its days. -/
theorem daysInYearsBefore_succ {year : Nat} (counted : 1 ≤ year) :
    daysInYearsBefore (year + 1) = daysInYearsBefore year + daysInYear year := by
  have before : year + 1 - 1 = (year - 1) + 1 := by omega
  have last : year - 1 + 1 = year := by omega
  rw [daysInYearsBefore, before, List.range_succ, List.map_append, List.sum_append,
    List.map_singleton, List.sum_singleton, last]
  rfl

/-- The days before a year do not get fewer. -/
theorem daysInYearsBefore_mono {early late : Nat} (counted : 1 ≤ early) (ordered : early ≤ late) :
    daysInYearsBefore early ≤ daysInYearsBefore late := by
  induction ordered with
  | refl => exact Nat.le_refl _
  | step ordered hypothesis =>
    rw [daysInYearsBefore_succ (Nat.le_trans counted ordered)]
    omega

/-- The months of a year make up the year. -/
theorem sum_monthLengths (year : Nat) : (monthLengths year).sum = daysInYear year := by
  unfold monthLengths daysInYear
  cases isLeapYear year <;> rfl

/-- One more month adds its days. -/
theorem daysInMonthsBefore_succ {year month : Nat} (first : 1 ≤ month) (last : month ≤ 12) :
    daysInMonthsBefore year (month + 1) =
      daysInMonthsBefore year month + daysInMonth year month := by
  have before : month + 1 - 1 = (month - 1) + 1 := by omega
  have inside : month - 1 < (monthLengths year).length := by
    show month - 1 < 12
    omega
  rw [daysInMonthsBefore, before, List.take_add_one, List.sum_append, daysInMonth,
    List.getD_eq_getElem?_getD, List.getElem?_eq_getElem inside]
  rfl

/-- The days before a month do not get fewer. -/
theorem daysInMonthsBefore_mono (year : Nat) {early late : Nat} (ordered : early ≤ late) :
    daysInMonthsBefore year early ≤ daysInMonthsBefore year late := by
  have front : (monthLengths year).take (early - 1) <+: (monthLengths year).take (late - 1) :=
    List.take_prefix_take_left (by omega)
  obtain ⟨between, joined⟩ := front
  rw [daysInMonthsBefore, daysInMonthsBefore, ← joined, List.sum_append]
  omega

/-! ## Instants -/

/-- The date is one of the calendar, and the time one of a day. -/
structure IsValid (instant : DateTime) : Prop where
  /-- Years are counted from 1. -/
  year_pos : 1 ≤ instant.year
  /-- The calendar has a last year. -/
  year_le : instant.year ≤ lastYear
  /-- Months are counted from 1. -/
  month_pos : 1 ≤ instant.month
  /-- There are 12 months. -/
  month_le : instant.month ≤ 12
  /-- Days are counted from 1. -/
  day_pos : 1 ≤ instant.day
  /-- The day is one of the month. -/
  day_le : instant.day ≤ daysInMonth instant.year instant.month
  /-- There are 24 hours. -/
  hour_lt : instant.hour < 24
  /-- There are 60 minutes. -/
  minute_lt : instant.minute < 60
  /-- There are 60 seconds. -/
  second_lt : instant.second < 60
  /-- There are a million microseconds. -/
  microsecond_lt : instant.microsecond < 1000000

/-- The number of whole days since the start of the calendar. -/
def elapsedDays (instant : DateTime) : Nat :=
  daysInYearsBefore instant.year + daysInMonthsBefore instant.year instant.month +
    (instant.day - 1)

/-- The number of microseconds since the start of the calendar. -/
def elapsed (instant : DateTime) : Nat :=
  (((instant.elapsedDays * 24 + instant.hour) * 60 + instant.minute) * 60 + instant.second) *
    1000000 + instant.microsecond

/-- The fields, the one that counts most first. -/
def fields (instant : DateTime) : List Nat :=
  [instant.year, instant.month, instant.day, instant.hour, instant.minute, instant.second,
    instant.microsecond]

/-- Instants with the same fields are the same. -/
theorem eq_of_fields {left right : DateTime} (same : left.fields = right.fields) :
    left = right := by
  cases left
  cases right
  simpa [fields] using same

/-- The date lies in its month. -/
theorem IsValid.inMonth {instant : DateTime} (valid : instant.IsValid) :
    daysInMonthsBefore instant.year instant.month + (instant.day - 1) <
      daysInMonthsBefore instant.year (instant.month + 1) := by
  have first := valid.day_pos
  have last := valid.day_le
  rw [daysInMonthsBefore_succ valid.month_pos valid.month_le]
  omega

/-- The date lies in its year. -/
theorem IsValid.inYear {instant : DateTime} (valid : instant.IsValid) :
    instant.elapsedDays < daysInYearsBefore (instant.year + 1) := by
  have inMonth := valid.inMonth
  have inTwelve : daysInMonthsBefore instant.year (instant.month + 1) ≤
      daysInMonthsBefore instant.year (12 + 1) :=
    daysInMonthsBefore_mono instant.year (Nat.succ_le_succ valid.month_le)
  have whole : daysInMonthsBefore instant.year (12 + 1) = daysInYear instant.year :=
    sum_monthLengths instant.year
  rw [elapsedDays, daysInYearsBefore_succ valid.year_pos]
  omega

/-- Of two dates, the one in the earlier year, month or day is the earlier one. -/
theorem elapsedDays_lt {early late : DateTime} (valid : early.IsValid)
    (ordered : early.year < late.year ∨ early.year = late.year ∧
      (early.month < late.month ∨ early.month = late.month ∧ early.day < late.day)) :
    early.elapsedDays < late.elapsedDays := by
  rcases ordered with year | ⟨year, month | ⟨month, day⟩⟩
  · have before : daysInYearsBefore (early.year + 1) ≤ daysInYearsBefore late.year :=
      daysInYearsBefore_mono (Nat.succ_pos early.year) year
    have inYear := valid.inYear
    unfold elapsedDays at inYear ⊢
    omega
  · have before : daysInMonthsBefore late.year (early.month + 1) ≤
        daysInMonthsBefore late.year late.month := daysInMonthsBefore_mono late.year month
    have inMonth := valid.inMonth
    rw [elapsedDays, elapsedDays]
    rw [year] at inMonth ⊢
    omega
  · have first := valid.day_pos
    rw [elapsedDays, elapsedDays, year, month]
    omega

/-- Of two instants, the one with the lesser fields is the earlier one. -/
theorem elapsed_lt {early late : DateTime} (valid : early.IsValid)
    (ordered : early.fields < late.fields) : early.elapsed < late.elapsed := by
  have hour := valid.hour_lt
  have minute := valid.minute_lt
  have second := valid.second_lt
  have microsecond := valid.microsecond_lt
  simp only [fields, List.cons_lt_cons_iff, List.not_lt_nil, and_false, or_false] at ordered
  have byDays : early.elapsedDays < late.elapsedDays → early.elapsed < late.elapsed := by
    intro days
    unfold elapsed
    omega
  rcases ordered with year | ⟨year, month | ⟨month, day | ⟨day, time⟩⟩⟩
  · exact byDays (elapsedDays_lt valid (.inl year))
  · exact byDays (elapsedDays_lt valid (.inr ⟨year, .inl month⟩))
  · exact byDays (elapsedDays_lt valid (.inr ⟨year, .inr ⟨month, day⟩⟩))
  · have days : early.elapsedDays = late.elapsedDays := by
      rw [elapsedDays, elapsedDays, year, month, day]
    unfold elapsed
    omega

/-- Of two instants, the one that lies no farther from the start has the lesser or equal fields. -/
theorem fields_le {early late : DateTime} (valid : late.IsValid)
    (ordered : early.elapsed ≤ late.elapsed) : early.fields ≤ late.fields := by
  apply not_lt.mp
  intro later
  have less := elapsed_lt valid later
  omega

/-- No two instants lie equally far from the start. -/
theorem IsValid.eq_of_elapsed {left right : DateTime} (valid : left.IsValid)
    (validRight : right.IsValid) (same : left.elapsed = right.elapsed) : left = right := by
  have before : left.fields ≤ right.fields := fields_le validRight (Nat.le_of_eq same)
  have behind : right.fields ≤ left.fields := fields_le valid (Nat.le_of_eq same.symm)
  exact eq_of_fields (le_antisymm before behind)

end DebugLens.DateTime
