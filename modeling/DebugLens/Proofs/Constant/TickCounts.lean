import DebugLens.Constant.Conversion
import DebugLens.Proofs.Calendar.Instants

/-!
# Constant dates

A constant of the type of dates is a count of ticks of 100 nanoseconds since the start of the
calendar. It stands for the instant at which the whole microseconds among them have elapsed; ten
counts in a row stand for the same instant, and greater counts for later ones. Negative counts and
those beyond the last instant of the calendar are refused.
-/
namespace DebugLens

/-- A count of ticks is converted as a date if the type is that of dates. -/
theorem TypeSymbol.constant_dateTime {symbol : TypeSymbol}
    (dated : symbol.representation.special = .dateTime) (ticks : Int) :
    symbol.constant (.integer ticks) = instantConstant (.integer ticks) := by
  rw [TypeSymbol.constant, dated]
  rfl

/-- Ten ticks are a microsecond. -/
theorem natCast_ticks (count : Nat) : (count : Int) / 10 = ((count / 10 : Nat) : Int) := rfl

/-- A count of ticks is refused if it is negative or lies beyond the last instant. -/
theorem instantConstant_of_outside {ticks : Int}
    (outside : ticks < 0 ∨ (DateTime.last.elapsed : Int) < ticks / 10) :
    instantConstant (.integer ticks) = .error .unacceptable := by
  cases ticks with
  | negSucc count => rfl
  | ofNat count =>
    rw [Int.ofNat_eq_natCast, natCast_ticks, Int.ofNat_lt] at outside
    have beyond : DateTime.last.elapsed < count / ticksPerMicrosecond :=
      outside.resolve_left (Int.not_lt.mpr (Int.natCast_nonneg count))
    rw [instantConstant, DateTime.ofMicroseconds?_of_gt beyond]

/-- Any other count of ticks gives the instant at which its whole microseconds have elapsed. -/
theorem instantConstant_of_inside {ticks : Int} (least : 0 ≤ ticks)
    (greatest : ticks / 10 ≤ DateTime.last.elapsed) :
    ∃ instant, instantConstant (.integer ticks) = .ok (.instant instant) ∧ instant.IsValid ∧
      (instant.elapsed : Int) = ticks / 10 := by
  cases ticks with
  | negSucc count => exact absurd (Int.negSucc_lt_zero count) (Int.not_lt.mpr least)
  | ofNat count =>
    rw [Int.ofNat_eq_natCast, natCast_ticks, Int.ofNat_le] at greatest
    obtain ⟨instant, found, valid, elapsed⟩ := DateTime.ofMicroseconds?_of_le greatest
    have converted : DateTime.ofMicroseconds? (count / ticksPerMicrosecond) = some instant := found
    refine ⟨instant, ?_, valid, ?_⟩
    · rw [instantConstant, converted]
    · rw [elapsed, Int.ofNat_eq_natCast, natCast_ticks]

/-- A count of ticks that gives an instant is its whole microseconds. -/
theorem elapsed_of_instantConstant {ticks : Int} {instant : DateTime}
    (converted : instantConstant (.integer ticks) = .ok (.instant instant)) :
    instant.IsValid ∧ (instant.elapsed : Int) = ticks / 10 := by
  by_cases outside : ticks < 0 ∨ (DateTime.last.elapsed : Int) < ticks / 10
  · rw [instantConstant_of_outside outside] at converted
    contradiction
  · obtain ⟨least, greatest⟩ := not_or.mp outside
    obtain ⟨found, same, valid, elapsed⟩ :=
      instantConstant_of_inside (Int.not_lt.mp least) (Int.not_lt.mp greatest)
    rw [same] at converted
    obtain rfl : found = instant := by simpa using converted
    exact ⟨valid, elapsed⟩

/-- A count of ticks is refused for the type of dates exactly if it is negative or its whole
microseconds reach beyond the last instant of the calendar. Any other gives the only date and time
at which these have elapsed. Greater counts give instants whose fields are not less, and two counts
give the same instant exactly if they have the same whole microseconds. -/
theorem dateConstant_exact (symbol : TypeSymbol)
    (dated : symbol.representation.special = .dateTime) (ticks : Int) :
    (symbol.constant (.integer ticks) = .error .unacceptable ↔
      ticks < 0 ∨ (DateTime.last.elapsed : Int) < ticks / 10) ∧
    (¬(ticks < 0 ∨ (DateTime.last.elapsed : Int) < ticks / 10) → ∃ instant,
      symbol.constant (.integer ticks) = .ok (.instant instant) ∧
      instant.IsValid ∧ (instant.elapsed : Int) = ticks / 10 ∧
      (∀ other : DateTime, other.IsValid → (other.elapsed : Int) = ticks / 10 →
        other = instant) ∧
      ∀ laterTicks later, symbol.constant (.integer laterTicks) = .ok (.instant later) →
        (ticks ≤ laterTicks → instant.fields ≤ later.fields) ∧
        (instant = later ↔ ticks / 10 = laterTicks / 10)) := by
  simp only [TypeSymbol.constant_dateTime dated]
  by_cases outside : ticks < 0 ∨ (DateTime.last.elapsed : Int) < ticks / 10
  · exact ⟨iff_of_true (instantConstant_of_outside outside) outside, absurd outside⟩
  · obtain ⟨least, greatest⟩ := not_or.mp outside
    obtain ⟨instant, converted, valid, elapsed⟩ :=
      instantConstant_of_inside (Int.not_lt.mp least) (Int.not_lt.mp greatest)
    constructor
    · rw [converted]
      exact iff_of_false nofun outside
    · refine fun _ => ⟨instant, converted, valid, elapsed, ?_, ?_⟩
      · intro other validOther same
        exact validOther.eq_of_elapsed valid (Int.ofNat_inj.mp (same.trans elapsed.symm))
      · intro laterTicks later convertedLater
        obtain ⟨validLater, elapsedLater⟩ := elapsed_of_instantConstant convertedLater
        constructor
        · intro ordered
          have quotients : ticks / 10 ≤ laterTicks / 10 :=
            Int.ediv_le_ediv (by decide) ordered
          rw [← elapsed, ← elapsedLater] at quotients
          exact DateTime.fields_le validLater (Int.ofNat_le.mp quotients)
        · rw [← elapsed, ← elapsedLater]
          constructor
          · intro same
            rw [same]
          · intro same
            exact valid.eq_of_elapsed validLater (Int.ofNat_inj.mp same)

/-- Some time after noon on a leap day. -/
def leapDay : DateTime where
  year := 2000
  month := 2
  day := 29
  hour := 12
  minute := 34
  second := 56
  microsecond := 789012

/-- The leap day is a valid instant. -/
theorem leapDay_valid : leapDay.IsValid := by
  constructor <;> decide

/-- The microseconds from the start of the calendar to the leap day. -/
theorem elapsed_leapDay : leapDay.elapsed = 63087424496789012 := by
  have years : DateTime.daysInYearsBefore leapDay.year = 730119 :=
    (DateTime.daysBeforeYear_eq (by decide)).symm
  have months : DateTime.daysInMonthsBefore leapDay.year leapDay.month = 31 := by decide
  rw [DateTime.elapsed, DateTime.elapsedDays, years, months]
  rfl

/-- The last tick of ten makes no difference. -/
theorem dateConstant_leapDay :
    let symbol : TypeSymbol := { name := "System.DateTime", special := .dateTime }
    symbol.representation.special = .dateTime ∧
      symbol.constant (.integer 630874244967890127) = .ok (.instant leapDay) := by
  intro symbol
  have dated : symbol.representation.special = .dateTime := rfl
  have inside : ¬((630874244967890127 : Int) < 0 ∨
      (DateTime.last.elapsed : Int) < 630874244967890127 / 10) := by
    rw [DateTime.elapsed_last_eq]
    decide
  obtain ⟨instant, converted, _, _, unique, _⟩ :=
    (dateConstant_exact symbol dated 630874244967890127).2 inside
  have same : leapDay = instant := by
    apply unique leapDay leapDay_valid
    rw [elapsed_leapDay]
    decide
  rw [same]
  exact ⟨dated, converted⟩

end DebugLens
