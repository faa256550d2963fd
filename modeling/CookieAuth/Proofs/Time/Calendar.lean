import CookieAuth.Time.Instant

/-!
# Dates in order

The date of a day is computed from years that start in March.  This file says what these years, the
days in them and their months are, and concludes that later days have later dates and that months
and days have two digits.

## Main definitions

* `yearStart`, `withoutLeapDays`: the first day of a year of an era, and the days of an era that are
  not leap days;
* `era`, `dayOfEra`, `yearOfEra`, `dayOfYear`, `monthOfYear`: the parts of a day;
* `Date.Before`: the order of dates;
* `Instant.Reaches`: a number of minutes later is still in the calendar.

## Main results

* `dayOfYear_range`: a year has at most 366 days;
* `Date.before_ofDays`, `Date.year_ofDays_mono`: later days have later dates;
* `Date.month_ofDays_range`, `Date.day_ofDays_range`: the ranges of months and days;
* `Instant.addMinutes_of_reaches`, `Instant.addMinutes_of_not_reaches`: when minutes can be added.
-/

namespace CookieAuth.Time

/-! ### Years that start in March -/

/-- The first day of a year of an era, for the years from 0 to 399. -/
def yearStart (year : Int) : Int :=
  365 * year + year / 4 - year / 100

/-- How many of the first days of an era are not leap days.  The leap days are those at the end of
every four years, but not of every hundred years, but at the end of the era. -/
def withoutLeapDays (day : Int) : Int :=
  day - day / 1460 + day / 36524 - day / 146096

/-- The era of a day, counted from the start of 1970. -/
def era (n : Int) : Int :=
  (n + 719468) / 146097

/-- The day in its era. -/
def dayOfEra (n : Int) : Int :=
  (n + 719468) % 146097

/-- The year of a day in its era. -/
def yearOfEra (n : Int) : Int :=
  withoutLeapDays (dayOfEra n) / 365

/-- The day in its year. -/
def dayOfYear (n : Int) : Int :=
  dayOfEra n - yearStart (yearOfEra n)

/-- The month of a day, counted from March. -/
def monthOfYear (n : Int) : Int :=
  (5 * dayOfYear n + 2) / 153

theorem withoutLeapDays_mono {d e : Int} (h : d ≤ e) : withoutLeapDays d ≤ withoutLeapDays e := by
  unfold withoutLeapDays
  omega

theorem dayOfEra_range (n : Int) : 0 ≤ dayOfEra n ∧ dayOfEra n < 146097 := by
  unfold dayOfEra
  omega

theorem yearOfEra_range (n : Int) : 0 ≤ yearOfEra n ∧ yearOfEra n < 400 := by
  have hday := dayOfEra_range n
  unfold yearOfEra withoutLeapDays
  omega

/-- Before a year starts, and once it is over, the days that are not leap days say so. -/
theorem withoutLeapDays_yearStart (year : Fin 400) :
    (year.val = 0 ∨ withoutLeapDays (yearStart year.val - 1) < 365 * year.val) ∧
      365 * (year.val + 1) ≤ withoutLeapDays (yearStart year.val + 366) := by
  decide +kernel +revert

/-- A year has at most 366 days. -/
theorem dayOfYear_range (n : Int) : 0 ≤ dayOfYear n ∧ dayOfYear n ≤ 365 := by
  have hday := dayOfEra_range n
  obtain ⟨hmin, hmax⟩ := yearOfEra_range n
  obtain ⟨year, hyear⟩ : ∃ year : Fin 400, yearOfEra n = year.val :=
    ⟨⟨(yearOfEra n).toNat, by omega⟩, by simp; omega⟩
  have hdays : yearOfEra n = withoutLeapDays (dayOfEra n) / 365 := rfl
  obtain ⟨hbefore, hafter⟩ := withoutLeapDays_yearStart year
  rw [← hyear] at hbefore hafter
  have hstart : yearStart (yearOfEra n) ≤ dayOfEra n := by
    by_cases hfirst : yearOfEra n = 0
    · rw [hfirst]
      exact hday.1
    · -- Otherwise the day comes before the year, and has too few days before it.
      apply Int.not_lt.mp
      intro hearly
      have hfew := withoutLeapDays_mono (Int.le_sub_one_of_lt hearly)
      omega
  have hend : dayOfEra n < yearStart (yearOfEra n) + 366 := by
    apply Int.not_le.mp
    intro hlate
    have hmany := withoutLeapDays_mono hlate
    omega
  unfold dayOfYear
  omega

/-- A later day is in a later year, or later in the same year. -/
theorem year_lt_or_dayOfYear_lt {m n : Int} (h : m < n) :
    era m * 400 + yearOfEra m < era n * 400 + yearOfEra n ∨
      (era m * 400 + yearOfEra m = era n * 400 + yearOfEra n ∧ dayOfYear m < dayOfYear n) := by
  have hm := yearOfEra_range m
  have hn := yearOfEra_range n
  have hera : era m ≤ era n := by
    unfold era
    omega
  by_cases hsame : era m = era n
  · -- Within an era, the year grows with the day.
    have hday : dayOfEra m < dayOfEra n := by
      unfold era at hsame
      unfold dayOfEra
      omega
    have hyear : yearOfEra m ≤ yearOfEra n :=
      Int.ediv_le_ediv (by decide) (withoutLeapDays_mono (Int.le_of_lt hday))
    by_cases hequal : yearOfEra m = yearOfEra n
    · refine .inr ⟨by omega, ?_⟩
      unfold dayOfYear
      rw [hequal]
      omega
    · exact .inl (by omega)
  · exact .inl (by omega)

/-! ### Dates -/

namespace Date

/-- The order of dates. -/
def Before (d e : Date) : Prop :=
  d.year < e.year ∨ (d.year = e.year ∧ (d.month < e.month ∨ (d.month = e.month ∧ d.day < e.day)))

theorem month_ofDays (n : Int) :
    (ofDays n).month = if monthOfYear n < 10 then monthOfYear n + 3 else monthOfYear n - 9 := rfl

theorem year_ofDays (n : Int) :
    (ofDays n).year
      = yearOfEra n + era n * 400 + (if (ofDays n).month ≤ 2 then 1 else 0) := rfl

theorem day_ofDays (n : Int) :
    (ofDays n).day = dayOfYear n - (153 * monthOfYear n + 2) / 5 + 1 := rfl

theorem monthOfYear_range (n : Int) : 0 ≤ monthOfYear n ∧ monthOfYear n ≤ 11 := by
  have hday := dayOfYear_range n
  unfold monthOfYear
  omega

theorem month_ofDays_range (n : Int) : 1 ≤ (ofDays n).month ∧ (ofDays n).month ≤ 12 := by
  have hmonth := monthOfYear_range n
  rw [month_ofDays]
  split <;> omega

theorem day_ofDays_range (n : Int) : 1 ≤ (ofDays n).day ∧ (ofDays n).day ≤ 31 := by
  have hday := dayOfYear_range n
  rw [day_ofDays]
  unfold monthOfYear
  omega

/-- Later days have later dates. -/
theorem before_ofDays {m n : Int} (h : m < n) : (ofDays m).Before (ofDays n) := by
  have hm := monthOfYear_range m
  have hn := monthOfYear_range n
  have hmonthm := month_ofDays m
  have hmonthn := month_ofDays n
  have hyearm := year_ofDays m
  have hyearn := year_ofDays n
  unfold Before
  rcases year_lt_or_dayOfYear_lt h with hyear | ⟨hyear, hday⟩
  · -- January and February belong to the year before, so their own year may be the same.
    split at hmonthm <;> split at hmonthn <;> split at hyearm <;> split at hyearn <;> omega
  · have hdaym := day_ofDays m
    have hdayn := day_ofDays n
    by_cases hmonth : monthOfYear m = monthOfYear n
    · rw [hmonth] at hdaym hmonthm
      have hsame : (ofDays m).month = (ofDays n).month := hmonthm.trans hmonthn.symm
      rw [hsame] at hyearm
      exact .inr ⟨by omega, .inr ⟨hsame, by omega⟩⟩
    · have hless : monthOfYear m < monthOfYear n := by
        unfold monthOfYear at hmonth ⊢
        omega
      split at hmonthm <;> split at hmonthn <;> split at hyearm <;> split at hyearn <;> omega

/-- The years of days are in the order of the days. -/
theorem year_ofDays_mono {m n : Int} (h : m ≤ n) : (ofDays m).year ≤ (ofDays n).year := by
  rcases Int.lt_or_eq_of_le h with hless | rfl
  · rcases before_ofDays hless with hyear | ⟨hyear, -⟩
    · exact Int.le_of_lt hyear
    · exact Int.le_of_eq hyear
  · exact Int.le_refl _

end Date

/-! ### The range of the calendar -/

namespace Instant

/-- The point in time that lies `minutes` later can be computed. -/
structure Reaches (t : Instant) (minutes : Int) : Prop where
  /-- The distance is not too long. -/
  distance : -longestMinutes ≤ minutes ∧ minutes ≤ longestMinutes
  /-- The result is in the calendar. -/
  result : calendarStart ≤ t.addSeconds (60 * minutes) ∧ t.addSeconds (60 * minutes) < calendarEnd

variable {t : Instant} {minutes : Int}

theorem addMinutes_of_reaches (h : t.Reaches minutes) :
    t.addMinutes minutes = .ok (t.addSeconds (60 * minutes)) := by
  have hdistance : ¬ (longestMinutes < minutes || minutes < -longestMinutes) = true := by
    have := h.distance
    simp only [Bool.or_eq_true, decide_eq_true_eq]
    omega
  have hresult : ¬ (t.addSeconds (60 * minutes) < calendarStart ||
      calendarEnd ≤ t.addSeconds (60 * minutes)) = true := by
    simp only [Bool.or_eq_true, decide_eq_true_eq, not_or]
    exact ⟨Int.not_lt.mpr h.result.1, Int.not_le.mpr h.result.2⟩
  rw [addMinutes, if_neg hdistance]
  exact if_neg hresult

theorem addMinutes_of_not_reaches (h : ¬ t.Reaches minutes) :
    ∃ e, t.addMinutes minutes = .error e := by
  unfold addMinutes
  split
  · exact ⟨_, rfl⟩
  · next hdistance =>
    dsimp only
    split
    · exact ⟨_, rfl⟩
    · next hresult =>
      simp only [Bool.or_eq_true, decide_eq_true_eq, not_or] at hdistance hresult
      exact absurd ⟨⟨by omega, by omega⟩, Int.not_lt.mp hresult.1, Int.not_le.mp hresult.2⟩ h

end Instant

end CookieAuth.Time
