import Mathlib.Tactic.IntervalCases
import Registrar.Time.Calendar

/-!
# Dates and day counts

The date of a day count is in the calendar, and its count is the one it was made from.

An era is split into three centuries of 36524 days and a last one that is a day longer, a century
into cycles of 1461 days, the last of which may be a day shorter, and a cycle into three years of
365 days and a last one that may be a day longer. The formula for the year of a day is right because
the divisions in it count the days by which these parts are too long.

## Main results

* `dateOfDays_inCalendar` — the date of a count is a date.
* `daysOfDate_dateOfDays` — the count of the date of a count.
-/

namespace Registrar

/-- A day of an era has a century, a cycle, a year of the cycle and a day of that year; the last day
of a long year comes in the last year of a cycle only. -/
theorem exists_cycle {d : Int} (h0 : 0 ≤ d) (h1 : d < 146097) :
    ∃ c q t u : Int, d = 36524 * c + 1461 * q + 365 * t + u ∧ 0 ≤ c ∧ c ≤ 3 ∧ 0 ≤ q ∧ q ≤ 24 ∧
      0 ≤ t ∧ t ≤ 3 ∧ 0 ≤ u ∧ u ≤ 365 ∧ (u = 365 → t = 3 ∧ (q = 24 → c = 3)) := by
  obtain ⟨c, r, rfl, hc0, hc3, hr0, hr⟩ : ∃ c r : Int, d = 36524 * c + r ∧ 0 ≤ c ∧ c ≤ 3 ∧ 0 ≤ r ∧
      (r < 36524 ∨ c = 3 ∧ r = 36524) :=
    ⟨min 3 (d / 36524), d - 36524 * min 3 (d / 36524), by omega⟩
  obtain ⟨q, s, rfl, hq0, hq, hs0, hs⟩ : ∃ q s : Int, r = 1461 * q + s ∧ 0 ≤ q ∧ q ≤ 24 ∧ 0 ≤ s ∧
      (s < 1460 ∨ s = 1460 ∧ (q = 24 → c = 3)) :=
    ⟨r / 1461, r % 1461, by omega⟩
  obtain ⟨t, u, rfl, ht0, ht, hu0, hu⟩ : ∃ t u : Int, s = 365 * t + u ∧ 0 ≤ t ∧ t ≤ 3 ∧ 0 ≤ u ∧
      (u < 365 ∨ u = 365 ∧ t = 3 ∧ s = 1460) :=
    ⟨min 3 (s / 365), s - 365 * min 3 (s / 365), by omega⟩
  exact ⟨c, q, t, u, by omega⟩

/-- The year of a day of an era. -/
theorem yearOfEra_eq {d c q t u : Int} (hd : d = 36524 * c + 1461 * q + 365 * t + u)
    (hc0 : 0 ≤ c) (hc : c ≤ 3) (hq0 : 0 ≤ q) (hq : q ≤ 24) (ht0 : 0 ≤ t) (ht : t ≤ 3)
    (hu0 : 0 ≤ u) (hu : u ≤ 365) (hlast : u = 365 → t = 3 ∧ (q = 24 → c = 3)) :
    (d - d / 1460 + d / 36524 - d / 146096) / 365 = 100 * c + 4 * q + t := by
  have hcentury : d / 36524 - d / 146096 = c := by
    obtain ⟨r, hr, hr0, hdr⟩ : ∃ r : Int, (r < 36524 ∨ c = 3 ∧ r = 36524) ∧ 0 ≤ r ∧
        d = 36524 * c + r :=
      ⟨1461 * q + 365 * t + u, by omega⟩
    clear hd
    omega
  have hcycle : d / 1460 = 25 * c + q + (24 * c + q + 365 * t + u) / 1460 := by omega
  have hcarry : (24 * c + q + 365 * t + u) / 1460 = 0 ∨
      ((24 * c + q + 365 * t + u) / 1460 = 1 ∧ 1 ≤ u ∧ t = 3) := by omega
  omega

/-- A day of an era is a day of one of its years, and the last day of a long year is in a leap
year; years are counted from March on. -/
theorem exists_yearOfEra {d : Int} (h0 : 0 ≤ d) (h1 : d < 146097) :
    ∃ y u : Int, (d - d / 1460 + d / 36524 - d / 146096) / 365 = y ∧ 0 ≤ y ∧ y < 400 ∧
      d = 365 * y + y / 4 - y / 100 + u ∧ 0 ≤ u ∧ u ≤ 365 ∧
      (u = 365 → (y + 1) % 4 = 0 ∧ ((y + 1) % 100 = 0 → (y + 1) % 400 = 0)) := by
  obtain ⟨c, q, t, u, hd, hc0, hc, hq0, hq, ht0, ht, hu0, hu, hlast⟩ := exists_cycle h0 h1
  have hfour : (100 * c + 4 * q + t) / 4 = 25 * c + q := by omega
  have hhundred : (100 * c + (4 * q + t)) / 100 = c := by omega
  have hday : d = 365 * (100 * c + 4 * q + t) + (100 * c + 4 * q + t) / 4
      - (100 * c + 4 * q + t) / 100 + u := by
    rw [hfour, Int.add_assoc, hhundred, hd]
    omega
  refine ⟨100 * c + 4 * q + t, u, yearOfEra_eq hd hc0 hc hq0 hq ht0 ht hu0 hu hlast,
    by omega, by omega, hday, hu0, hu, fun hlong => ?_⟩
  clear hfour hhundred hday hd
  obtain ⟨rfl, hcentury⟩ := hlast hlong
  refine ⟨by omega, fun hround => ?_⟩
  have hlastCycle : q = 24 := by
    obtain ⟨k, hk⟩ := Int.dvd_of_emod_eq_zero hround
    omega
  rw [hcentury hlastCycle, hlastCycle]
  rfl

theorem isLeapYear_iff {year : Int} :
    isLeapYear year = true ↔ year % 4 = 0 ∧ (year % 100 = 0 → year % 400 = 0) := by
  simp only [isLeapYear, Bool.and_eq_true, Bool.or_eq_true, beq_iff_eq, bne_iff_ne, ne_eq]
  omega

/-- A date that is in the calendar. -/
structure InCalendar (year : Int) (month day : Nat) : Prop where
  month_pos : 1 ≤ month
  month_le : month ≤ 12
  day_pos : 1 ≤ day
  day_le : day ≤ daysInMonth year month

theorem daysInMonth_le (year : Int) (month : Nat) : daysInMonth year month ≤ 31 := by
  unfold daysInMonth
  repeat' split
  all_goals decide

/-- The calendar month, for a month counted from March on. -/
def monthOfMarch (m : Nat) : Nat :=
  if m < 10 then m + 3 else m - 9

/-- The calendar year, for a year that starts in March and a month of it. -/
def yearOfMarch (y : Int) (m : Nat) : Int :=
  if m < 10 then y else y + 1

theorem cast_monthOfMarch {m : Nat} (h : m ≤ 11) :
    (if (m : Int) < 10 then (m : Int) + 3 else m - 9) = monthOfMarch m := by
  rw [monthOfMarch]
  split <;> split <;> omega

theorem monthOfMarch_le_two {m : Nat} (h : m ≤ 11) : monthOfMarch m ≤ 2 ↔ ¬ m < 10 := by
  rw [monthOfMarch]
  split <;> omega

/-- All months but February end where the next one starts. -/
theorem daysInMonth_monthOfMarch {year : Int} {m : Nat} (h : m < 11) :
    daysInMonth year (monthOfMarch m) = (153 * (m + 1) + 2) / 5 - (153 * m + 2) / 5 := by
  interval_cases m <;> rfl

/-- The day of a month is in the calendar. -/
theorem le_daysInMonth {y u era : Int} {m day : Nat} (hm : (5 * u + 2) / 153 = m) (hu : u ≤ 365)
    (hday : u - (153 * m + 2) / 5 + 1 = day)
    (hlast : u = 365 → (y + 1) % 4 = 0 ∧ ((y + 1) % 100 = 0 → (y + 1) % 400 = 0)) :
    day ≤ daysInMonth (yearOfMarch (y + era * 400) m) (monthOfMarch m) := by
  by_cases hfebruary : m < 11
  · rw [daysInMonth_monthOfMarch hfebruary]
    interval_cases m <;> omega
  · obtain rfl : m = 11 := by omega
    have hlength : daysInMonth (yearOfMarch (y + era * 400) 11) (monthOfMarch 11) =
        if isLeapYear (y + era * 400 + 1) then 29 else 28 := rfl
    rw [hlength]
    split
    · omega
    · next hleap =>
      rw [isLeapYear_iff] at hleap
      have hshort : u ≠ 365 := by
        intro hlong
        have hyear := hlast hlong
        omega
      omega

/-- Every day count has an era, a year, a month and a day, the latter three counted from March on,
and its date is told by them. -/
theorem exists_dateOfDays (days : Int) :
    ∃ (era y : Int) (m day : Nat), 0 ≤ y ∧ y < 400 ∧ m ≤ 11 ∧ 1 ≤ day ∧
      day ≤ daysInMonth (yearOfMarch (y + era * 400) m) (monthOfMarch m) ∧
      days = era * 146097 + (365 * y + y / 4 - y / 100 + ((153 * m + 2) / 5 + day - 1)) - 719468 ∧
      dateOfDays days = (yearOfMarch (y + era * 400) m, monthOfMarch m, day) := by
  obtain ⟨era, d, hd0, hd, hdays, hera⟩ : ∃ era d : Int, 0 ≤ d ∧ d < 146097 ∧
      days + 719468 = era * 146097 + d ∧ Int.fdiv (days + 719468) 146097 = era :=
    ⟨(days + 719468) / 146097, (days + 719468) % 146097, by omega, by omega, by omega,
      Int.fdiv_eq_ediv_of_nonneg _ (by decide)⟩
  obtain ⟨y, u, hyear, hy0, hy, hyd, hu0, hu, hlast⟩ := exists_yearOfEra hd0 hd
  obtain ⟨m, hm⟩ : ∃ m : Nat, (5 * u + 2) / 153 = m := Int.eq_ofNat_of_zero_le (by omega)
  obtain ⟨day, hday⟩ : ∃ day : Nat, u - (153 * m + 2) / 5 + 1 = (day : Int) :=
    Int.eq_ofNat_of_zero_le (by omega)
  have hrest : days + 719468 - era * 146097 = d := by omega
  have hfirst : d - (365 * y + y / 4 - y / 100) = u := by omega
  refine ⟨era, y, m, day, hy0, hy, by omega, by omega, ?_, by omega, ?_⟩
  · exact le_daysInMonth hm hu hday hlast
  · have hm11 : m ≤ 11 := by omega
    simp only [dateOfDays, hera, hrest, hyear, hfirst, hm, hday, cast_monthOfMarch hm11,
      Int.toNat_natCast]
    have hwinter : (monthOfMarch m : Int) ≤ 2 ↔ ¬ m < 10 := by
      rw [← monthOfMarch_le_two hm11]
      omega
    rw [yearOfMarch]
    by_cases hspring : m < 10
    · rw [if_pos hspring, if_neg (by rw [hwinter, not_not]; exact hspring), Int.add_zero]
    · rw [if_neg hspring, if_pos (hwinter.mpr hspring)]

/-- **The date of a day count is in the calendar.** -/
theorem dateOfDays_inCalendar (days : Int) :
    InCalendar (dateOfDays days).1 (dateOfDays days).2.1 (dateOfDays days).2.2 := by
  obtain ⟨era, y, m, day, -, -, hm, hday, hle, -, hdate⟩ := exists_dateOfDays days
  rw [hdate]
  have hmonth : 1 ≤ monthOfMarch m ∧ monthOfMarch m ≤ 12 := by
    rw [monthOfMarch]
    split <;> omega
  exact ⟨hmonth.1, hmonth.2, hday, hle⟩

/-- **The date of a day count has that count.** -/
theorem daysOfDate_dateOfDays (days : Int) :
    daysOfDate (dateOfDays days).1 (dateOfDays days).2.1 (dateOfDays days).2.2 = days := by
  obtain ⟨era, y, m, day, hy0, hy, hm, hday, -, hdays, hdate⟩ := exists_dateOfDays days
  have hyear : (if monthOfMarch m ≤ 2 then yearOfMarch (y + era * 400) m - 1
      else yearOfMarch (y + era * 400) m) = y + era * 400 := by
    simp only [monthOfMarch_le_two hm, yearOfMarch]
    split <;> omega
  have hera : Int.fdiv (y + era * 400) 400 = era := by
    rw [Int.fdiv_eq_ediv_of_nonneg _ (by decide)]
    omega
  have hmonth : ((monthOfMarch m : Int) + 9) % 12 = m := by
    rw [monthOfMarch]
    split <;> omega
  rw [hdate, hdays]
  simp only [daysOfDate, hyear, hera, hmonth]
  rw [Int.add_sub_cancel]
  omega

end Registrar
