import DebugLens.Proofs.Calendar.Elapsed

/-!
# Instants from elapsed time

The year that a day lies in is found by cycles of years, and the month and the day by the lengths
of the months. Every number of microseconds up to the end of the last year gives the instant at
which so much time has elapsed, and a greater number gives none.
-/
namespace DebugLens.DateTime

/-! ## Years -/

/-- The years divisible by 4 are longer, but of those divisible by 100 only the ones that are also
divisible by 400. -/
theorem daysInYear_eq (year : Nat) :
    daysInYear year =
      if year % 4 = 0 ∧ (year % 100 ≠ 0 ∨ year % 400 = 0) then 366 else 365 := by
  simp [daysInYear, isLeapYear]

/-- The days before a year, without subtraction. -/
theorem daysBeforeYear_add (past : Nat) :
    daysBeforeYear (past + 1) + past / 100 = past * 365 + past / 4 + past / 400 := by
  have fewer : past / 100 ≤ past / 4 := Nat.div_le_div_left (by decide) (by decide)
  rw [daysBeforeYear, Nat.add_sub_cancel]
  omega

/-- The leap days are those of the years passed. -/
theorem daysBeforeYear_succ {year : Nat} (counted : 1 ≤ year) :
    daysBeforeYear (year + 1) = daysBeforeYear year + daysInYear year := by
  obtain ⟨past, rfl⟩ : ∃ past, year = past + 1 := ⟨year - 1, by omega⟩
  have before := daysBeforeYear_add past
  have behind := daysBeforeYear_add (past + 1)
  -- A quotient grows exactly at the multiples of its divisor.
  simp only [Nat.succ_div, Nat.dvd_iff_mod_eq_zero] at behind
  rw [daysInYear_eq]
  by_cases four : (past + 1) % 4 = 0
  · by_cases hundred : (past + 1) % 100 = 0
    · by_cases fourHundred : (past + 1) % 400 = 0
      · rw [if_pos four, if_pos hundred, if_pos fourHundred] at behind
        rw [if_pos ⟨four, .inr fourHundred⟩]
        omega
      · rw [if_pos four, if_pos hundred, if_neg fourHundred] at behind
        rw [if_neg fun leap => leap.2.elim (absurd hundred) fourHundred]
        omega
    · have notFourHundred : (past + 1) % 400 ≠ 0 := by omega
      rw [if_pos four, if_neg hundred, if_neg notFourHundred] at behind
      rw [if_pos ⟨four, .inl hundred⟩]
      omega
  · have notHundred : (past + 1) % 100 ≠ 0 := by omega
    have notFourHundred : (past + 1) % 400 ≠ 0 := by omega
    rw [if_neg four, if_neg notHundred, if_neg notFourHundred] at behind
    rw [if_neg fun leap => four leap.1]
    omega

/-- The days before a year are those of all years before it. -/
theorem daysBeforeYear_eq {year : Nat} (counted : 1 ≤ year) :
    daysBeforeYear year = daysInYearsBefore year := by
  induction counted with
  | refl => rfl
  | step counted hypothesis =>
    rw [daysBeforeYear_succ counted, hypothesis, daysInYearsBefore_succ counted]

/-- The days before a year are those of the cycles of 400, 100, 4 and 1 years before it. -/
theorem daysBeforeYear_cycles (cycles : Nat) {centuries fours years : Nat}
    (century : centuries ≤ 3) (four : fours ≤ 24) (year : years ≤ 3) :
    daysBeforeYear (cycles * 400 + centuries * 100 + fours * 4 + years + 1) =
      cycles * 146097 + centuries * 36524 + fours * 1461 + years * 365 := by
  have added := daysBeforeYear_add (cycles * 400 + centuries * 100 + fours * 4 + years)
  have byFour : (cycles * 400 + centuries * 100 + fours * 4 + years) / 4 =
      cycles * 100 + centuries * 25 + fours := by omega
  have byHundred : (cycles * 400 + centuries * 100 + fours * 4 + years) / 100 =
      cycles * 4 + centuries := by omega
  have byFourHundred : (cycles * 400 + centuries * 100 + fours * 4 + years) / 400 = cycles := by
    omega
  rw [byFour, byHundred, byFourHundred] at added
  omega

/-- The last year of a cycle of four years is longer, unless it ends a century that ends no cycle
of 400 years. -/
theorem daysInYear_cycles (cycles : Nat) {centuries fours : Nat} (four : fours ≤ 24)
    (whole : fours = 24 → centuries = 3) :
    daysInYear (cycles * 400 + centuries * 100 + fours * 4 + 3 + 1) = 366 := by
  rw [daysInYear_eq]
  apply if_pos
  constructor
  · omega
  · by_cases last : fours = 24
    · have century := whole last
      exact .inr (by omega)
    · exact .inl (by omega)

/-- A year has 365 days at least. -/
theorem le_daysInYear (year : Nat) : 365 ≤ daysInYear year := by
  rw [daysInYear_eq]
  split <;> decide

/-- A day lies in its year. -/
theorem yearOfDay_spec (days : Nat) :
    daysBeforeYear (yearOfDay days) ≤ days ∧
      days < daysBeforeYear (yearOfDay days) + daysInYear (yearOfDay days) := by
  let cycles := days / 146097
  let in400 := days % 146097
  let centuries := min (in400 / 36524) 3
  let in100 := in400 - centuries * 36524
  let fours := in100 / 1461
  let in4 := in100 % 1461
  let years := min (in4 / 365) 3
  have year_eq : yearOfDay days = cycles * 400 + centuries * 100 + fours * 4 + years + 1 := rfl
  have in400Less : in400 < 146097 := Nat.mod_lt _ (by decide)
  have in4Less : in4 < 1461 := Nat.mod_lt _ (by decide)
  have days_eq : days = cycles * 146097 + in400 := (Nat.div_add_mod' _ _).symm
  have in100_eq : in100 = fours * 1461 + in4 := (Nat.div_add_mod' _ _).symm
  have century : centuries ≤ in400 / 36524 ∧ centuries ≤ 3 := by omega
  have in400_eq : in400 = centuries * 36524 + in100 := by omega
  -- The last century of a cycle and the last year of four may have a day more than the others,
  -- so their quotients are cut off.
  have lastCentury : centuries < 3 → in100 < 36524 := by omega
  have four : fours ≤ 24 := by omega
  have year : years ≤ in4 / 365 ∧ years ≤ 3 := by omega
  have before := daysBeforeYear_cycles cycles century.2 four year.2
  have ordinary := le_daysInYear (yearOfDay days)
  rw [← year_eq] at before
  by_cases last : years = 3
  · have whole : in4 = 1460 → daysInYear (yearOfDay days) = 366 := by
      intro long
      rw [year_eq, last]
      apply daysInYear_cycles cycles four
      omega
    omega
  · omega

/-! ## Dates -/

/-- A day of a year lies in a month that is reached by passing the lengths of the months before. -/
theorem monthAndDay_spec {lengths : List Nat} {month day : Nat} (inside : day < lengths.sum) :
    ∃ passed rest, monthAndDay lengths month day = (month + passed, rest + 1) ∧
      passed < lengths.length ∧ rest < lengths.getD passed 0 ∧
      day = (lengths.take passed).sum + rest := by
  induction lengths generalizing month day with
  | nil => contradiction
  | cons length lengths hypothesis =>
    rw [List.sum_cons] at inside
    rw [monthAndDay]
    by_cases here : day < length
    · refine ⟨0, day, if_pos here, Nat.succ_pos _, here, ?_⟩
      simp
    · have behind : day - length < lengths.sum := by omega
      obtain ⟨passed, rest, found, fewer, short, left⟩ := hypothesis behind
      refine ⟨passed + 1, rest, ?_, Nat.succ_lt_succ fewer, short, ?_⟩
      · rw [if_neg here, found, Nat.add_assoc, Nat.add_comm 1 passed]
      · rw [List.take_succ_cons, List.sum_cons]
        omega

/-- The date of a day is found by its year and the day of the year. -/
theorem date_of_day (days : Nat) :
    ∃ month day, monthAndDay (monthLengths (yearOfDay days)) 1
        (days - daysBeforeYear (yearOfDay days)) = (month, day) ∧
      1 ≤ month ∧ month ≤ 12 ∧ 1 ≤ day ∧ day ≤ daysInMonth (yearOfDay days) month ∧
      days = daysInYearsBefore (yearOfDay days) + daysInMonthsBefore (yearOfDay days) month +
        (day - 1) := by
  have counted : 1 ≤ yearOfDay days := Nat.succ_pos _
  have inYear := yearOfDay_spec days
  have inside : days - daysBeforeYear (yearOfDay days) < (monthLengths (yearOfDay days)).sum := by
    rw [sum_monthLengths]
    omega
  obtain ⟨passed, rest, found, fewer, short, left⟩ := monthAndDay_spec inside
  have months : passed < 12 := fewer
  have index : 1 + passed - 1 = passed := by omega
  refine ⟨1 + passed, rest + 1, found, by omega, by omega, by omega, ?_, ?_⟩
  · rw [daysInMonth, index]
    omega
  · rw [daysInMonthsBefore, index, ← daysBeforeYear_eq counted]
    omega

/-! ## Instants -/

/-- The last instant of the calendar. -/
def last : DateTime where
  year := lastYear
  month := 12
  day := 31
  hour := 23
  minute := 59
  second := 59
  microsecond := 999999

/-- A year ends with the last day of December. -/
theorem elapsedDays_lastDay {instant : DateTime} (counted : 1 ≤ instant.year)
    (month : instant.month = 12) (day : instant.day = 31) :
    instant.elapsedDays + 1 = daysInYearsBefore (instant.year + 1) := by
  have months : daysInMonthsBefore instant.year 12 + 31 = daysInYear instant.year := by
    unfold daysInMonthsBefore monthLengths daysInYear
    cases isLeapYear instant.year <;> rfl
  rw [elapsedDays, month, day, daysInYearsBefore_succ counted]
  omega

/-- The calendar ends one microsecond after its last instant. -/
theorem elapsed_last :
    last.elapsed + 1 = daysInYearsBefore (lastYear + 1) * 86400 * 1000000 := by
  have days : last.elapsedDays + 1 = daysInYearsBefore (lastYear + 1) :=
    elapsedDays_lastDay (by decide) rfl rfl
  have hour : last.hour = 23 := rfl
  have minute : last.minute = 59 := rfl
  have second : last.second = 59 := rfl
  have microsecond : last.microsecond = 999999 := rfl
  rw [← days, elapsed, hour, minute, second, microsecond]
  -- The number of days itself is never computed.
  generalize last.elapsedDays = days
  omega

/-- The last instant lies ten thousand years, less a microsecond, behind the start. -/
theorem elapsed_last_eq : last.elapsed = 315537897599999999 := by
  have ends := elapsed_last
  have days : daysInYearsBefore (lastYear + 1) = 3652059 :=
    (daysBeforeYear_eq (by decide)).symm
  rw [days] at ends
  omega

/-- A day lies in a year of the calendar exactly if it is before the end of the last year. -/
theorem yearOfDay_le_iff (days : Nat) :
    yearOfDay days ≤ lastYear ↔ days < daysInYearsBefore (lastYear + 1) := by
  have counted : 1 ≤ yearOfDay days := Nat.succ_pos _
  have inYear := yearOfDay_spec days
  rw [daysBeforeYear_eq counted, ← daysInYearsBefore_succ counted] at inYear
  constructor
  · intro within
    have ordered := daysInYearsBefore_mono (Nat.succ_pos (yearOfDay days)) (Nat.succ_le_succ within)
    exact Nat.lt_of_lt_of_le inYear.2 ordered
  · intro before
    by_contra beyond
    have ordered : daysInYearsBefore (lastYear + 1) ≤ daysInYearsBefore (yearOfDay days) :=
      daysInYearsBefore_mono (Nat.succ_pos lastYear) (Nat.lt_of_not_le beyond)
    omega

/-- A number of microseconds lies in a year of the calendar exactly if the last instant does not
come before it. -/
theorem year_le_iff (microseconds : Nat) :
    yearOfDay (microseconds / 1000000 / 86400) ≤ lastYear ↔ microseconds ≤ last.elapsed := by
  have ends := elapsed_last
  rw [yearOfDay_le_iff]
  omega

/-- Days and the fields of the clock make up the whole time. -/
theorem clock_whole (microseconds : Nat) :
    (((microseconds / 1000000 / 86400 * 24 + microseconds / 1000000 / 3600 % 24) * 60 +
      microseconds / 1000000 / 60 % 60) * 60 + microseconds / 1000000 % 60) * 1000000 +
      microseconds % 1000000 = microseconds := by
  omega

/-- Up to the last instant, a number of microseconds gives the instant at which so much time has
elapsed. -/
theorem ofMicroseconds?_of_le {microseconds : Nat} (within : microseconds ≤ last.elapsed) :
    ∃ instant, ofMicroseconds? microseconds = some instant ∧ instant.IsValid ∧
      instant.elapsed = microseconds := by
  let days := microseconds / 1000000 / 86400
  have year : yearOfDay days ≤ lastYear := (year_le_iff microseconds).mpr within
  obtain ⟨month, day, date, firstMonth, lastMonth, firstDay, lastDay, counted⟩ := date_of_day days
  let seconds := microseconds / 1000000
  let instant : DateTime := {
    year := yearOfDay days, month, day, hour := seconds / 3600 % 24, minute := seconds / 60 % 60
    second := seconds % 60, microsecond := microseconds % 1000000 }
  have found : ofMicroseconds? microseconds = some instant := by
    rw [ofMicroseconds?, if_neg (Nat.not_lt.mpr year), date]
  have whole : instant.elapsedDays = days := counted.symm
  have valid : instant.IsValid := {
    year_pos := Nat.succ_pos _
    year_le := year
    month_pos := firstMonth
    month_le := lastMonth
    day_pos := firstDay
    day_le := lastDay
    hour_lt := Nat.mod_lt _ (by decide)
    minute_lt := Nat.mod_lt _ (by decide)
    second_lt := Nat.mod_lt _ (by decide)
    microsecond_lt := Nat.mod_lt _ (by decide) }
  refine ⟨instant, found, valid, ?_⟩
  rw [elapsed, whole]
  exact clock_whole microseconds

/-- Beyond the last instant, a number of microseconds gives none. -/
theorem ofMicroseconds?_of_gt {microseconds : Nat} (beyond : last.elapsed < microseconds) :
    ofMicroseconds? microseconds = none := by
  have year : yearOfDay (microseconds / 1000000 / 86400) > lastYear :=
    Nat.lt_of_not_le (mt (year_le_iff microseconds).mp (Nat.not_le_of_gt beyond))
  rw [ofMicroseconds?, if_pos year]

end DebugLens.DateTime
