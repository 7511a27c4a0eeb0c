import CrontabRenderer.Proofs.Calendar.Order
import CrontabRenderer.Schedule.Timetable

/-!
# Next times

The search for the next time of a timetable goes through the years, the months, the days, the hours,
the minutes and the seconds, in each case from the first to the last. It finds the earliest time on
the timetable that is later than a second, if there is one (`Timetable.next?_finds`).
-/
namespace CrontabRenderer.Schedule

/-- The result is an earliest time with the property, if any time has it. -/
def Finds (result : Option DateTime) (p : DateTime → Prop) : Prop :=
  match result with
  | none => ∀ time, ¬p time
  | some time => p time ∧ ∀ other, p other → time.seconds ≤ other.seconds

theorem Finds.congr {result : Option DateTime} {p q : DateTime → Prop} (h : Finds result p)
    (hpq : ∀ time, p time ↔ q time) : Finds result q := by
  obtain rfl : p = q := funext fun time => propext (hpq time)
  exact h

theorem Finds.ite {condition : Prop} [Decidable condition] {result : Option DateTime}
    {p : DateTime → Prop} (hthen : condition → Finds result p)
    (helse : ¬condition → ∀ time, ¬p time) : Finds (if condition then result else none) p := by
  split
  · exact hthen ‹_›
  · exact helse ‹_›

/-- Times that are sorted by a key are searched key by key. -/
theorem Finds.findSome? {p : DateTime → Prop} (key : DateTime → Nat) {keys : List Nat}
    {f : Nat → Option DateTime} (hkeys : keys.Pairwise (· < ·))
    (hmem : ∀ time, p time → key time ∈ keys)
    (hsorted : ∀ time other, p time → p other → key time < key other → time.seconds < other.seconds)
    (hf : ∀ k ∈ keys, Finds (f k) fun time => key time = k ∧ p time) :
    Finds (keys.findSome? f) p := by
  cases hresult : keys.findSome? f with
  | none =>
    intro time htime
    have hnone := List.findSome?_eq_none_iff.1 hresult (key time) (hmem time htime)
    have hfinds := hf (key time) (hmem time htime)
    rw [hnone] at hfinds
    exact hfinds time ⟨rfl, htime⟩
  | some time =>
    obtain ⟨before, k, after, rfl, hk, hbefore⟩ := List.findSome?_eq_some_iff.1 hresult
    have hfinds := hf k (by simp)
    rw [hk] at hfinds
    obtain ⟨⟨rfl, htime⟩, hleast⟩ := hfinds
    refine ⟨htime, fun other hother => ?_⟩
    rcases List.mem_append.1 (hmem other hother) with hearlier | hlater
    · have hfinds := hf (key other) (hmem other hother)
      rw [hbefore _ hearlier] at hfinds
      exact absurd ⟨rfl, hother⟩ (hfinds other)
    · rcases List.mem_cons.1 hlater with heq | hlater
      · exact hleast other ⟨heq, hother⟩
      · have hpairwise := (List.pairwise_append.1 hkeys).2.1
        exact Int.le_of_lt
          (hsorted time other htime hother (List.rel_of_pairwise_cons hpairwise hlater))

theorem Field.mem_range {field : Field} {n : Nat} :
    n ∈ field.range ↔ field.first ≤ n ∧ n ≤ field.last := by
  have : field.first ≤ field.last := by cases field <;> decide
  rw [Field.range, List.mem_range'_1]
  omega

theorem Field.pairwise_range (field : Field) : field.range.Pairwise (· < ·) :=
  List.pairwise_lt_range' 1

namespace Timetable

/-- The time is on the timetable. -/
structure Holds (t : Timetable) (time : DateTime) : Prop where
  years : t.years.contain time.year = true
  months : t.months.contain time.month = true
  day : t.allowsDay time.year time.month time.day = true
  hours : t.hours.contain time.hour = true
  minutes : t.minutes.contain time.minute = true
  seconds : t.seconds.contain time.second = true

/-- The time is on the timetable and later than a second. -/
structure IsUpcoming (t : Timetable) (after : Int) (time : DateTime) : Prop where
  valid : time.IsValid
  holds : t.Holds time
  later : after < time.seconds

variable {t : Timetable} {after : Int} {year month day : Nat}

/-- The time is on the day. -/
def IsOn (year month day : Nat) (time : DateTime) : Prop :=
  time.year = year ∧ time.month = month ∧ time.day = day

theorem IsOn.dayNumber_eq {time other : DateTime} (h : IsOn year month day time)
    (h' : IsOn year month day other) : time.dayNumber = other.dayNumber := by
  obtain ⟨rfl, rfl, rfl⟩ := h
  obtain ⟨hyear, hmonth, hday⟩ := h'
  rw [DateTime.dayNumber, DateTime.dayNumber, hyear, hmonth, hday]

/-- The day is in the calendar and on the timetable. -/
structure HoldsDay (t : Timetable) (year month day : Nat) : Prop where
  inYear : 1 ≤ month ∧ month ≤ 12
  inMonth : 1 ≤ day ∧ day ≤ Calendar.daysInMonth year month
  years : t.years.contain year = true
  months : t.months.contain month = true
  allows : t.allowsDay year month day = true

/-- The seconds of a minute are searched in their order. -/
theorem finds_second {hour minute : Nat} (hday : t.HoldsDay year month day) (hhour : hour ≤ 23)
    (hhours : t.hours.contain hour = true) (hminute : minute ≤ 59)
    (hminutes : t.minutes.contain minute = true) :
    Finds (Field.second.range.findSome? fun second =>
      let time : DateTime := ⟨year, month, day, hour, minute, second⟩
      if t.seconds.contain second ∧ after < time.seconds then some time else none) fun time =>
        time.minute = minute ∧ time.hour = hour ∧ IsOn year month day time ∧
          t.IsUpcoming after time := by
  refine Finds.findSome? DateTime.second (Field.pairwise_range .second) ?_ ?_
    fun second hsecond => ?_
  · rintro time ⟨-, -, -, htime⟩
    exact Field.mem_range.2 ⟨Nat.zero_le _, htime.valid.second⟩
  · rintro time other ⟨rfl, rfl, hon, htime⟩ ⟨hminute', hhour', hon', -⟩ hlt
    exact DateTime.seconds_lt_of_second_lt (hon.dayNumber_eq hon') hhour'.symm hminute'.symm hlt
  refine Finds.ite (fun hfound => ?_) fun hfound => ?_
  · have hvalid : DateTime.IsValid ⟨year, month, day, hour, minute, second⟩ :=
      ⟨hday.inYear, hday.inMonth, hhour, hminute, (Field.mem_range.1 hsecond).2⟩
    have hholds : t.Holds ⟨year, month, day, hour, minute, second⟩ :=
      ⟨hday.years, hday.months, hday.allows, hhours, hminutes, hfound.1⟩
    refine ⟨⟨rfl, rfl, rfl, ⟨rfl, rfl, rfl⟩, hvalid, hholds, hfound.2⟩, ?_⟩
    rintro ⟨_, _, _, _, _, _⟩ ⟨rfl, rfl, rfl, ⟨rfl, rfl, rfl⟩, -⟩
    exact Int.le_refl _
  · rintro ⟨_, _, _, _, _, _⟩ ⟨rfl, rfl, rfl, ⟨rfl, rfl, rfl⟩, htime⟩
    exact hfound ⟨htime.holds.seconds, htime.later⟩

theorem nextInDay?_finds (hday : t.HoldsDay year month day) :
    Finds (t.nextInDay? after year month day) fun time =>
      IsOn year month day time ∧ t.IsUpcoming after time := by
  refine Finds.findSome? DateTime.hour (Field.pairwise_range .hour) ?_ ?_ fun hour hhour => ?_
  · rintro time ⟨-, htime⟩
    exact Field.mem_range.2 ⟨Nat.zero_le _, htime.valid.hour⟩
  · rintro time other ⟨hon, htime⟩ ⟨hon', -⟩ hlt
    exact htime.valid.seconds_lt_of_hour_lt (hon.dayNumber_eq hon') hlt
  refine Finds.ite (fun hhours => ?_) fun hhours => ?_
  swap
  · rintro time ⟨rfl, -, htime⟩
    exact hhours htime.holds.hours
  refine Finds.findSome? DateTime.minute (Field.pairwise_range .minute) ?_ ?_
    fun minute hminute => ?_
  · rintro time ⟨-, -, htime⟩
    exact Field.mem_range.2 ⟨Nat.zero_le _, htime.valid.minute⟩
  · rintro time other ⟨rfl, hon, htime⟩ ⟨hhour', hon', -⟩ hlt
    exact htime.valid.seconds_lt_of_minute_lt (hon.dayNumber_eq hon') hhour'.symm hlt
  refine Finds.ite (fun hminutes => ?_) fun hminutes => ?_
  · have hhour := (Field.mem_range.1 hhour).2
    have hminute := (Field.mem_range.1 hminute).2
    exact finds_second hday hhour hhours hminute hminutes
  · rintro time ⟨rfl, -, -, htime⟩
    exact hminutes htime.holds.minutes

theorem nextInYear?_finds (hyears : t.years.contain year = true) :
    Finds (t.nextInYear? after year) fun time => time.year = year ∧ t.IsUpcoming after time := by
  refine Finds.findSome? DateTime.month (Field.pairwise_range .month) ?_ ?_ fun month hmonth => ?_
  · rintro time ⟨-, htime⟩
    exact Field.mem_range.2 htime.valid.month
  · rintro time other ⟨rfl, htime⟩ ⟨hyear', hother⟩ hlt
    exact htime.valid.seconds_lt_of_month_lt hother.valid hyear'.symm hlt
  refine Finds.ite (fun hmonths => ?_) fun hmonths => ?_
  swap
  · rintro time ⟨rfl, -, htime⟩
    exact hmonths htime.holds.months
  refine Finds.findSome? DateTime.day (List.pairwise_lt_range' 1) ?_ ?_ fun day hday => ?_
  · rintro time ⟨rfl, rfl, htime⟩
    have := htime.valid.day
    rw [List.mem_range'_1]
    omega
  · rintro time other ⟨rfl, rfl, htime⟩ ⟨hmonth', hyear', hother⟩ hlt
    exact htime.valid.seconds_lt_of_day_lt hother.valid hyear'.symm hmonth'.symm hlt
  refine Finds.ite (fun hallows => ?_) fun hpast => ?_
  · have hvalid : 1 ≤ day ∧ day ≤ Calendar.daysInMonth year month := by
      rw [List.mem_range'_1] at hday
      omega
    have hholds : t.HoldsDay year month day :=
      ⟨Field.mem_range.1 hmonth, hvalid, hyears, hmonths, hallows.1⟩
    refine (nextInDay?_finds hholds).congr fun time => ?_
    simp only [IsOn]
    tauto
  · rintro time ⟨rfl, rfl, rfl, htime⟩
    have hbounds := htime.valid.bounds
    have hlater := htime.later
    rw [DateTime.dayNumber] at hbounds
    exact hpast ⟨htime.holds.day, by omega⟩

/-- The next time is the earliest one on the timetable that is later than the second, if there is
one. -/
theorem next?_finds (hafter : 86400 * Calendar.dayNumber 0 1 1 ≤ after + 1) :
    Finds (t.next? after) fun time =>
      (1970 ≤ time.year ∧ time.year ≤ 2100) ∧ t.IsUpcoming after time := by
  rw [next?, if_neg (by omega)]
  refine Finds.findSome? DateTime.year (Field.pairwise_range .year) ?_ ?_ fun year hyear => ?_
  · rintro time ⟨hyear, -⟩
    exact Field.mem_range.2 hyear
  · rintro time other ⟨-, htime⟩ ⟨-, hother⟩ hlt
    exact htime.valid.seconds_lt_of_year_lt hother.valid hlt
  refine Finds.ite (fun hyears => ?_) fun hpast => ?_
  · refine (nextInYear?_finds hyears.1).congr fun time => and_congr_right ?_
    rintro rfl
    exact (and_iff_right (Field.mem_range.1 hyear)).symm
  · rintro time ⟨rfl, -, htime⟩
    have hbounds := htime.valid.bounds
    have hlater := htime.later
    have hnewYear : time.dayNumber < Calendar.dayNumber (time.year + 1) 1 1 :=
      Calendar.dayNumber_lt_newYear htime.valid.month.1 htime.valid.month.2 htime.valid.day.2
    exact hpast ⟨htime.holds.years, by omega⟩

end Timetable

end CrontabRenderer.Schedule
