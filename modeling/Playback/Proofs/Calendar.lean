import Playback.Instant

namespace Playback.Calendar

/-- The days of an era without those that leap years add. -/
def leanDays (dayOfEra : Int) : Int :=
  dayOfEra - dayOfEra / 1460 + dayOfEra / 36524 - dayOfEra / 146096

/-- The first day of a year of an era. -/
def yearStart (yearOfEra : Int) : Int := 365 * yearOfEra + yearOfEra / 4 - yearOfEra / 100

theorem leanDays_mono {first last : Int} (least : 0 ≤ first) (ordered : first ≤ last)
    (most : last < 146097) : leanDays first ≤ leanDays last := by
  have centuries : first / 36524 ≤ last / 36524 := Int.ediv_le_ediv (by decide) ordered
  have leaps : last / 1460 - first / 1460 ≤ last - first := by
    omega
  rw [leanDays, leanDays]
  by_cases final : last = 146096
  · subst final
    omega
  · have none : first / 146096 = 0 ∧ last / 146096 = 0 := by
      omega
    omega

/-- The lean days of a year stay within the year. -/
theorem leanDays_of_year {year : Int} (least : 0 ≤ year) (most : year < 400) :
    365 * year ≤ leanDays (yearStart year) ∧
      leanDays (yearStart (year + 1) - 1) < 365 * (year + 1) := by
  have known : ∀ year : Fin 400, 365 * (year.val : Int) ≤ leanDays (yearStart year.val) ∧
      leanDays (yearStart (year.val + 1) - 1) < 365 * (year.val + 1) := by
    decide +kernel
  have year := known ⟨year.toNat, by omega⟩
  simpa only [Int.toNat_of_nonneg least] using year

/-- The year of a day of an era. The last year of an era has one day more than the others say. -/
theorem year_of_leanDays {dayOfEra : Int} (least : 0 ≤ dayOfEra) (most : dayOfEra < 146097) :
    0 ≤ leanDays dayOfEra / 365 ∧ leanDays dayOfEra / 365 < 400 ∧
      yearStart (leanDays dayOfEra / 365) ≤ dayOfEra ∧
      (dayOfEra < yearStart (leanDays dayOfEra / 365 + 1) ∨
        dayOfEra = 146096 ∧ leanDays dayOfEra / 365 = 399) := by
  have low : leanDays 0 ≤ leanDays dayOfEra := leanDays_mono (by decide) least most
  have high : leanDays dayOfEra ≤ leanDays 146096 := leanDays_mono least (by omega) (by decide)
  have first : leanDays 0 = 0 := rfl
  have last : leanDays 146096 = 145999 := rfl
  generalize taken : leanDays dayOfEra / 365 = year
  have small : 0 ≤ year ∧ year < 400 := by
    omega
  refine ⟨small.1, small.2, Int.not_lt.mp fun early => ?_, ?_⟩
  · -- A day before the year has the lean days of the years before it.
    by_cases zero : year = 0
    · subst zero
      exact absurd least (Int.not_le.mpr early)
    · obtain ⟨_, before⟩ := leanDays_of_year (show 0 ≤ year - 1 by omega) (by omega)
      rw [Int.sub_add_cancel] at before
      have bound : yearStart year - 1 < 146097 := by
        rw [yearStart]
        omega
      have fewer := leanDays_mono least (show dayOfEra ≤ yearStart year - 1 by omega) bound
      omega
  · by_cases final : dayOfEra = 146096
    · rw [final, last] at taken
      exact .inr ⟨final, taken.symm⟩
    · refine .inl (Int.not_le.mp fun late => ?_)
      have within : year + 1 < 400 := by
        rw [yearStart] at late
        omega
      obtain ⟨after, _⟩ := leanDays_of_year (show 0 ≤ year + 1 by omega) within
      have positive : 0 ≤ yearStart (year + 1) := by
        rw [yearStart]
        omega
      have more := leanDays_mono positive late most
      omega

/-- A year of an era has one day more only if the next year, which has that day, is a leap year. -/
theorem isLeapYear_of_last {era year dayOfEra : Int} (least : 0 ≤ year)
    (start : yearStart year ≤ dayOfEra)
    (finish : dayOfEra < yearStart (year + 1) ∨ dayOfEra = 146096 ∧ year = 399) :
    dayOfEra - yearStart year < 365 ∨
      dayOfEra - yearStart year = 365 ∧ isLeapYear (400 * era + year + 1) = true := by
  simp only [isLeapYear, Bool.and_eq_true, Bool.or_eq_true, beq_iff_eq, bne_iff_ne]
  rw [yearStart] at start finish ⊢
  rcases finish with within | ⟨rfl, rfl⟩
  · have quarters : (year + 1) / 4 ≤ year / 4 + 1 := by
      omega
    have centuries : year / 100 ≤ (year + 1) / 100 := by
      omega
    by_cases shorter : dayOfEra - (365 * year + year / 4 - year / 100) < 365
    · exact .inl shorter
    · have leap : (year + 1) / 4 = year / 4 + 1 ∧ (year + 1) / 100 = year / 100 := by
        omega
      exact .inr ⟨by omega, by omega, .inl (by omega)⟩
  · omega

/-- The parts of a day number: an era, a year of the era that starts in March and a day of that
year. -/
theorem parts_of_day (day : Int) : ∃ era year dayOfYear : Int,
    0 ≤ year ∧ year < 400 ∧ 0 ≤ dayOfYear ∧
      (dayOfYear < 365 ∨ dayOfYear = 365 ∧ isLeapYear (400 * era + year + 1) = true) ∧
      day = 146097 * era + yearStart year + dayOfYear - 719468 ∧
      dateOf day =
        let shiftedMonth := (5 * dayOfYear + 2) / 153
        let month := if shiftedMonth < 10 then shiftedMonth + 3 else shiftedMonth - 9
        (if month ≤ 2 then 400 * era + year + 1 else 400 * era + year, month,
          dayOfYear - (153 * shiftedMonth + 2) / 5 + 1) := by
  obtain ⟨least, most, start, finish⟩ := year_of_leanDays
    (Int.emod_nonneg (day + 719468) (by decide)) (Int.emod_lt_of_pos (day + 719468) (by decide))
  refine ⟨(day + 719468) / 146097, leanDays ((day + 719468) % 146097) / 365,
    (day + 719468) % 146097 - yearStart (leanDays ((day + 719468) % 146097) / 365), least, most,
    ?_, ?_, ?_, rfl⟩
  · omega
  · generalize leanDays ((day + 719468) % 146097) / 365 = year at *
    generalize (day + 719468) / 146097 = era
    generalize (day + 719468) % 146097 = dayOfEra at *
    exact isLeapYear_of_last least start finish
  · omega

/-- The number of a day is computed back from its date. -/
theorem dayOf_dateOf (day : Int) :
    dayOf (dateOf day).1 (dateOf day).2.1 (dateOf day).2.2 = day := by
  obtain ⟨era, year, dayOfYear, least, most, first, last, same, date⟩ := parts_of_day day
  have small : dayOfYear ≤ 365 := by
    omega
  rw [date]
  dsimp only
  generalize shifted : (5 * dayOfYear + 2) / 153 = month
  have months : 0 ≤ month ∧ month ≤ 11 := by
    omega
  rw [same, yearStart]
  by_cases early : month < 10
  · rw [if_pos early, if_neg (by omega), dayOf, if_neg (by omega)]
    omega
  · rw [if_neg early, if_pos (by omega), dayOf, if_pos (by omega)]
    omega

/-- The days of the calendar lie in its years. -/
theorem year_of_day {era year dayOfYear : Int} (least : 0 ≤ year) (most : year < 400)
    (first : 0 ≤ dayOfYear) (last : dayOfYear ≤ 365)
    (known : firstDay ≤ 146097 * era + yearStart year + dayOfYear - 719468 ∧
      146097 * era + yearStart year + dayOfYear - 719468 ≤ lastDay) :
    (-262144 < 400 * era + year ∨ -262144 = 400 * era + year ∧ 306 ≤ dayOfYear) ∧
      (400 * era + year < 262142 ∨ 400 * era + year = 262142 ∧ dayOfYear < 306) := by
  have range : -96465292 ≤ 146097 * era + yearStart year + dayOfYear - 719468 ∧
      146097 * era + yearStart year + dayOfYear - 719468 ≤ 95026236 := known
  rw [yearStart] at range
  have eras : -656 ≤ era ∧ era ≤ 655 := by
    omega
  constructor
  · by_cases lowest : era = -656
    · subst lowest
      omega
    · omega
  · by_cases highest : era = 655
    · subst highest
      omega
    · omega

/-- The date of a day exists. -/
theorem dateOf_lawful {day : Int} (known : firstDay ≤ day ∧ day ≤ lastDay) :
    (firstYear ≤ (dateOf day).1 ∧ (dateOf day).1 ≤ lastYear) ∧
      (1 ≤ (dateOf day).2.1 ∧ (dateOf day).2.1 ≤ 12) ∧
      1 ≤ (dateOf day).2.2 ∧ (dateOf day).2.2 ≤ monthLength (dateOf day).1 (dateOf day).2.1 := by
  obtain ⟨era, year, dayOfYear, least, most, first, last, same, date⟩ := parts_of_day day
  have small : dayOfYear ≤ 365 := by
    omega
  obtain ⟨low, high⟩ := year_of_day least most first small (same ▸ known)
  rw [date]
  dsimp only
  generalize shifted : (5 * dayOfYear + 2) / 153 = month
  have months : 0 ≤ month ∧ month ≤ 11 := by
    omega
  simp only [firstYear, lastYear]
  refine ⟨?_, ?_, ?_, ?_⟩
  · omega
  · omega
  · omega
  · by_cases final : month = 11
    · subst final
      have length : monthLength (400 * era + year + 1) 2 =
          if isLeapYear (400 * era + year + 1) then 29 else 28 := rfl
      change dayOfYear - (153 * 11 + 2) / 5 + 1 ≤ monthLength (400 * era + year + 1) 2
      rw [length]
      rcases last with short | ⟨_, leap⟩
      · split <;> omega
      · rw [if_pos leap]
        omega
    · have others : month = 0 ∨ month = 1 ∨ month = 2 ∨ month = 3 ∨ month = 4 ∨ month = 5 ∨
          month = 6 ∨ month = 7 ∨ month = 8 ∨ month = 9 ∨ month = 10 := by
        omega
      rcases others with rfl | rfl | rfl | rfl | rfl | rfl | rfl | rfl | rfl | rfl | rfl <;>
        simp [monthLength] <;> omega

end Playback.Calendar
