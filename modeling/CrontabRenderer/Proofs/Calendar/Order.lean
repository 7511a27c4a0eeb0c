import CrontabRenderer.Calendar
import Mathlib.Data.Nat.Init
import Mathlib.Tactic.Common

/-!
# Order of the calendar

A later day has a greater number, whether it comes later in its month (`dayNumber_lt_of_day_lt`), in
a later month (`dayNumber_lt_of_month_lt`) or in a later year (`dayNumber_lt_of_year_lt`). So the
seconds count the times of the calendar in their order, each by a number of its own
(`DateTime.IsValid.eq_of_seconds_eq`).
-/
namespace CrontabRenderer

namespace Calendar

/-- The days of a year. -/
def daysInYear (year : Nat) : Nat := if isLeap year then 366 else 365

theorem daysBeforeYear_succ (year : Nat) :
    daysBeforeYear (year + 1) = daysBeforeYear year + daysInYear year := by
  simp only [daysBeforeYear, daysInYear, isLeap]
  by_cases h4 : year % 4 = 0
  · by_cases h100 : year % 100 = 0
    · by_cases h400 : year % 400 = 0
      · simp [h4, h100, h400]
        omega
      · simp [h4, h100, h400]
        omega
    · simp [h4, h100]
      omega
  · simp [h4]
    omega

theorem daysBeforeMonth_one (year : Nat) : daysBeforeMonth year 1 = 0 := rfl

theorem daysBeforeMonth_succ {year month : Nat} (hmonth : 1 ≤ month) :
    daysBeforeMonth year (month + 1) = daysBeforeMonth year month + daysInMonth year month := by
  obtain ⟨before, rfl⟩ : ∃ before, month = before + 1 := ⟨month - 1, by omega⟩
  simp only [daysBeforeMonth, Nat.add_sub_cancel, List.range'_1_concat, List.foldl_append,
    List.foldl_cons, List.foldl_nil]
  rw [Nat.add_comm 1 before]

/-- The twelve months make the year. -/
theorem daysBeforeMonth_thirteen (year : Nat) : daysBeforeMonth year 13 = daysInYear year := by
  cases h : isLeap year <;>
    simp [daysBeforeMonth, daysInYear, daysInMonth, List.range', h]

theorem daysBeforeMonth_mono (year : Nat) {month month' : Nat} (hmonth : 1 ≤ month)
    (hle : month ≤ month') :
    daysBeforeMonth year month ≤ daysBeforeMonth year month' := by
  induction month', hle using Nat.le_induction with
  | base => exact Nat.le_refl _
  | succ month' hle ih =>
    rw [daysBeforeMonth_succ (Nat.le_trans hmonth hle)]
    omega

theorem dayNumber_lt_of_day_lt (year month : Nat) {day day' : Nat} (h : day < day') :
    dayNumber year month day < dayNumber year month day' := by
  simp only [dayNumber]
  omega

/-- The day before the first of a month is in an earlier month. -/
theorem dayNumber_lt_of_month_lt {year month month' day day' : Nat} (hmonth : 1 ≤ month)
    (hlt : month < month') (hday : day ≤ daysInMonth year month) (hday' : 1 ≤ day') :
    dayNumber year month day < dayNumber year month' day' := by
  have hmono := daysBeforeMonth_mono year (by omega : 1 ≤ month + 1) hlt
  rw [daysBeforeMonth_succ hmonth] at hmono
  simp only [dayNumber]
  omega

/-- The last day of a year comes before the first one of the next. -/
theorem dayNumber_lt_newYear {year month day : Nat} (hmonth : 1 ≤ month) (hle : month ≤ 12)
    (hday : day ≤ daysInMonth year month) :
    dayNumber year month day < dayNumber (year + 1) 1 1 := by
  have hlt := dayNumber_lt_of_month_lt hmonth (by omega : month < 13) hday (Nat.le_refl 1)
  have hyear := daysBeforeYear_succ year
  simp only [dayNumber, daysBeforeMonth_thirteen, daysBeforeMonth_one] at hlt ⊢
  omega

theorem newYear_mono {year year' : Nat} (h : year ≤ year') :
    dayNumber year 1 1 ≤ dayNumber year' 1 1 := by
  induction year', h using Nat.le_induction with
  | base => exact Int.le_refl _
  | succ year' _ ih =>
    have hyear := daysBeforeYear_succ year'
    simp only [dayNumber, daysBeforeMonth_one] at ih ⊢
    omega

theorem newYear_le_dayNumber {year month day : Nat} (hday : 1 ≤ day) :
    dayNumber year 1 1 ≤ dayNumber year month day := by
  simp only [dayNumber, daysBeforeMonth_one]
  omega

theorem dayNumber_lt_of_year_lt {year year' month month' day day' : Nat} (h : year < year')
    (hmonth : 1 ≤ month) (hle : month ≤ 12) (hday : day ≤ daysInMonth year month)
    (hday' : 1 ≤ day') : dayNumber year month day < dayNumber year' month' day' :=
  calc dayNumber year month day
    _ < dayNumber (year + 1) 1 1 := dayNumber_lt_newYear hmonth hle hday
    _ ≤ dayNumber year' 1 1 := newYear_mono h
    _ ≤ dayNumber year' month' day' := newYear_le_dayNumber hday'

theorem one_le_daysInMonth (year month : Nat) : 1 ≤ daysInMonth year month := by
  simp only [daysInMonth]
  split
  · split <;> decide
  · split <;> decide

/-- No month has more days than in a leap year. -/
theorem daysInMonth_le_of_isLeap {year : Nat} (hleap : isLeap year = true) (year' month : Nat) :
    daysInMonth year' month ≤ daysInMonth year month := by
  simp only [daysInMonth, hleap]
  split <;> simp
  split <;> simp

theorem weekday_lt (number : Int) : weekday number < 7 := by
  simp only [weekday]
  omega

/-- The first of a month falls on every day of the week in some year: from one leap year to the next
it moves by five days. -/
theorem exists_year_weekday {month day : Nat} (hmonth : 1 ≤ month ∧ month ≤ 12) (hday : day < 7) :
    ∃ year, 1971 ≤ year ∧ year ≤ 2100 ∧ weekday (dayNumber year month 1) = day := by
  have hcycle : ∀ month ∈ List.range' 1 12, ∀ day ∈ List.range 7,
      ∃ k ∈ List.range 7, weekday (dayNumber (1972 + 4 * k) month 1) = day := by decide +kernel
  obtain ⟨k, hk, hweekday⟩ := hcycle month (by rw [List.mem_range'_1]; omega) day
    (List.mem_range.2 hday)
  rw [List.mem_range] at hk
  exact ⟨1972 + 4 * k, by omega, by omega, hweekday⟩

end Calendar

namespace DateTime

/-- The day is in the calendar, the time of day on the clock. -/
structure IsValid (t : DateTime) : Prop where
  month : 1 ≤ t.month ∧ t.month ≤ 12
  day : 1 ≤ t.day ∧ t.day ≤ Calendar.daysInMonth t.year t.month
  hour : t.hour ≤ 23
  minute : t.minute ≤ 59
  second : t.second ≤ 59

variable {t t' : DateTime}

/-- A time falls on its day. -/
theorem IsValid.bounds (h : t.IsValid) :
    86400 * t.dayNumber ≤ t.seconds ∧ t.seconds < 86400 * (t.dayNumber + 1) := by
  have := h.hour
  have := h.minute
  have := h.second
  simp only [seconds]
  omega

theorem IsValid.seconds_lt_of_dayNumber_lt (h : t.IsValid) (h' : t'.IsValid)
    (hlt : t.dayNumber < t'.dayNumber) : t.seconds < t'.seconds := by
  have := h.bounds
  have := h'.bounds
  omega

theorem IsValid.seconds_lt_of_year_lt (h : t.IsValid) (h' : t'.IsValid) (hlt : t.year < t'.year) :
    t.seconds < t'.seconds :=
  h.seconds_lt_of_dayNumber_lt h'
    (Calendar.dayNumber_lt_of_year_lt hlt h.month.1 h.month.2 h.day.2 h'.day.1)

theorem IsValid.seconds_lt_of_month_lt (h : t.IsValid) (h' : t'.IsValid) (hyear : t.year = t'.year)
    (hlt : t.month < t'.month) : t.seconds < t'.seconds := by
  have hday := Calendar.dayNumber_lt_of_month_lt h.month.1 hlt h.day.2 h'.day.1
  rw [hyear] at hday
  exact h.seconds_lt_of_dayNumber_lt h' (by rwa [dayNumber, hyear])

theorem IsValid.seconds_lt_of_day_lt (h : t.IsValid) (h' : t'.IsValid) (hyear : t.year = t'.year)
    (hmonth : t.month = t'.month) (hlt : t.day < t'.day) : t.seconds < t'.seconds := by
  have hday := Calendar.dayNumber_lt_of_day_lt t.year t.month hlt
  exact h.seconds_lt_of_dayNumber_lt h' (by rwa [dayNumber, dayNumber, ← hyear, ← hmonth])

theorem IsValid.seconds_lt_of_hour_lt (h : t.IsValid) (hday : t.dayNumber = t'.dayNumber)
    (hlt : t.hour < t'.hour) : t.seconds < t'.seconds := by
  have := h.minute
  have := h.second
  simp only [seconds, hday]
  omega

theorem IsValid.seconds_lt_of_minute_lt (h : t.IsValid) (hday : t.dayNumber = t'.dayNumber)
    (hhour : t.hour = t'.hour) (hlt : t.minute < t'.minute) : t.seconds < t'.seconds := by
  have := h.second
  simp only [seconds, hday, hhour]
  omega

theorem seconds_lt_of_second_lt (hday : t.dayNumber = t'.dayNumber) (hhour : t.hour = t'.hour)
    (hminute : t.minute = t'.minute) (hlt : t.second < t'.second) : t.seconds < t'.seconds := by
  simp only [seconds, hday, hhour, hminute]
  omega

/-- No two times of the calendar are the same second. -/
theorem IsValid.eq_of_seconds_eq (h : t.IsValid) (h' : t'.IsValid)
    (hseconds : t.seconds = t'.seconds) : t = t' := by
  have hyear : t.year = t'.year := by
    rcases Nat.lt_trichotomy t.year t'.year with hlt | heq | hlt
    · exact absurd hseconds (Int.ne_of_lt (h.seconds_lt_of_year_lt h' hlt))
    · exact heq
    · exact absurd hseconds (Int.ne_of_gt (h'.seconds_lt_of_year_lt h hlt))
  have hmonth : t.month = t'.month := by
    rcases Nat.lt_trichotomy t.month t'.month with hlt | heq | hlt
    · exact absurd hseconds (Int.ne_of_lt (h.seconds_lt_of_month_lt h' hyear hlt))
    · exact heq
    · exact absurd hseconds (Int.ne_of_gt (h'.seconds_lt_of_month_lt h hyear.symm hlt))
  have hday : t.day = t'.day := by
    rcases Nat.lt_trichotomy t.day t'.day with hlt | heq | hlt
    · exact absurd hseconds (Int.ne_of_lt (h.seconds_lt_of_day_lt h' hyear hmonth hlt))
    · exact heq
    · exact absurd hseconds (Int.ne_of_gt (h'.seconds_lt_of_day_lt h hyear.symm hmonth.symm hlt))
  have hnumber : t.dayNumber = t'.dayNumber := by rw [dayNumber, dayNumber, hyear, hmonth, hday]
  have := h.minute
  have := h.second
  have := h'.minute
  have := h'.second
  simp only [seconds, hnumber] at hseconds
  rw [DateTime.mk.injEq]
  omega

end DateTime

end CrontabRenderer
