import CrontabRenderer.Proofs.Schedule.NextTime
import CrontabRenderer.Proofs.Schedule.TimeWords

/-!
# Days of the month and days of the week

A crontab starts a job on the days that both its words for days allow if one of the words begins
with a star, and on the days that either of them allows if none does. A timetable always wants both.
So the next run is that of the crontab at all times if and only if a word for days begins with a
star or the two words allow every day (`nextAfter_timeWords`).
-/
namespace CrontabRenderer.Schedule

namespace TimeWords

variable (words : TimeWords)

def AllowsDayOfMonth (day : Nat) : Prop := Field.dayOfMonth.Allows words.dayOfMonth day

def AllowsWeekday (day : Nat) : Prop := Weekday.AllowsDay words.dayOfWeek day

/-- One of the words for days begins with a star. -/
def HasStarredDay : Prop :=
  words.dayOfMonth.head? = some '*' ∨ words.dayOfWeek.head? = some '*'

instance : Decidable words.HasStarredDay := inferInstanceAs (Decidable (_ ∨ _))

/-- Both words for days allow the day. -/
def AllowBothDays (time : DateTime) : Prop :=
  words.AllowsDayOfMonth time.day ∧ words.AllowsWeekday (Calendar.weekday time.dayNumber)

/-- The words for days allow the day by the rule of crontabs. -/
def AllowDate (time : DateTime) : Prop :=
  if words.HasStarredDay then words.AllowBothDays time
  else words.AllowsDayOfMonth time.day ∨ words.AllowsWeekday (Calendar.weekday time.dayNumber)

/-- A whole minute in the years up to 2100 that the words allow, on a day that is allowed. -/
structure IsRun (days : DateTime → Prop) (time : DateTime) : Prop where
  valid : time.IsValid
  year : 1970 ≤ time.year ∧ time.year ≤ 2100
  second : time.second = 0
  minute : Field.minute.Allows words.minute time.minute
  hour : Field.hour.Allows words.hour time.hour
  month : Field.month.Allows words.month time.month
  day : days time

/-- Every day of the week is allowed, and every day of the months that are allowed. -/
def AllowEveryDay : Prop :=
  (∀ day < 7, words.AllowsWeekday day) ∧
    ∀ time : DateTime, time.IsValid → Field.month.Allows words.month time.month →
      words.AllowsDayOfMonth time.day

end TimeWords

/-- The result is the earliest of some times behind a point in time, or there is none. -/
def IsNextRun (p : DateTime → Prop) (after : Instant) : Except ScheduleError DateTime → Prop
  | .ok next => p next ∧ after.nanoseconds < next.seconds * Instant.perSecond ∧
      ∀ other, p other → after.nanoseconds < other.seconds * Instant.perSecond →
        next.seconds ≤ other.seconds
  | .error e => e = .noMoreOccurrences ∧
      ∀ other, p other → ¬after.nanoseconds < other.seconds * Instant.perSecond

theorem wholeSeconds_lt_iff {time : Instant} {seconds : Int} :
    time.wholeSeconds < seconds ↔ time.nanoseconds < seconds * Instant.perSecond :=
  Int.ediv_lt_iff_lt_mul (by decide)

/-- What the search finds on a timetable is the next run. -/
theorem isNextRun_nextAfter {schedule : Schedule} {t : Timetable}
    (htiming : schedule.timing = .timetable t) {p : DateTime → Prop} {time : Instant}
    (h : Finds (t.next? time.wholeSeconds) fun next => p next ∧ time.wholeSeconds < next.seconds) :
    IsNextRun p time (schedule.nextAfter time) := by
  simp only [nextAfter, htiming]
  cases hnext : t.next? time.wholeSeconds with
  | none =>
    rw [hnext] at h
    exact ⟨rfl, fun other hother hlater => h other ⟨hother, wholeSeconds_lt_iff.2 hlater⟩⟩
  | some next =>
    rw [hnext] at h
    obtain ⟨⟨hp, hlater⟩, hleast⟩ := h
    exact ⟨hp, wholeSeconds_lt_iff.1 hlater,
      fun other hother hlater => hleast other ⟨hother, wholeSeconds_lt_iff.2 hlater⟩⟩

theorem Field.contain_allNumbers {field : Field} {n : Nat} :
    field.allNumbers.contain n = true ↔ field.first ≤ n ∧ n ≤ field.last := by
  simp [allNumbers, Numbers.contain, Progression.contains_iff_of_step_one]

namespace TimeWords

variable {words : TimeWords} {t : Timetable}

/-- The times on the timetable of the words are the runs on days that both words for days allow. -/
theorem ReadAs.holds_iff (h : words.ReadAs t) (hslash : '/' ∉ words.dayOfWeek) {time : DateTime} :
    (1970 ≤ time.year ∧ time.year ≤ 2100) ∧ time.IsValid ∧ t.Holds time ↔
      words.IsRun words.AllowBothDays time := by
  obtain ⟨renumbered, hrenumber, hdaysOfWeek⟩ := h.daysOfWeek
  have hweekday : t.daysOfWeek.contain (Calendar.weekday time.dayNumber + 1) = true ↔
      words.AllowsWeekday (Calendar.weekday time.dayNumber) :=
    Weekday.contain_iff_allows hrenumber hslash hdaysOfWeek (Calendar.weekday_lt _)
  have hday : t.daysOfMonth.contain time.day = true ↔ words.AllowsDayOfMonth time.day :=
    h.daysOfMonth.contain_iff rfl
  have hdate : t.allowsDay time.year time.month time.day = true ↔ words.AllowBothDays time := by
    rw [AllowBothDays, ← hday, ← hweekday, Timetable.allowsDay, Bool.and_eq_true]
    rfl
  have hsecond : t.seconds.contain time.second = true ↔ time.second = 0 := by
    simp [h.seconds, Numbers.contain, Progression.contains_iff_of_step_one]
  have hyear : t.years.contain time.year = true ↔ 1970 ≤ time.year ∧ time.year ≤ 2100 := by
    rw [h.years]
    exact Field.contain_allNumbers
  constructor
  · rintro ⟨hrange, hvalid, hholds⟩
    exact ⟨hvalid, hrange, hsecond.1 hholds.seconds, (h.minutes.contain_iff rfl).1 hholds.minutes,
      (h.hours.contain_iff rfl).1 hholds.hours, (h.months.contain_iff rfl).1 hholds.months,
      hdate.1 hholds.day⟩
  · intro hrun
    exact ⟨hrun.year, hrun.valid, hyear.2 hrun.year, (h.months.contain_iff rfl).2 hrun.month,
      hdate.2 hrun.day, (h.hours.contain_iff rfl).2 hrun.hour,
      (h.minutes.contain_iff rfl).2 hrun.minute, hsecond.2 hrun.second⟩

/-- From the year zero on, the next run is the earliest one on a day that both words for days
allow. -/
theorem ReadAs.isNextRun {schedule : Schedule} (h : words.ReadAs t)
    (hslash : '/' ∉ words.dayOfWeek) (htiming : schedule.timing = .timetable t) {time : Instant}
    (htime : 86400 * Calendar.dayNumber 0 1 1 ≤ time.wholeSeconds + 1) :
    IsNextRun (words.IsRun words.AllowBothDays) time (schedule.nextAfter time) := by
  refine isNextRun_nextAfter htiming ((Timetable.next?_finds htime).congr fun next => ?_)
  rw [← h.holds_iff hslash]
  constructor
  · rintro ⟨hyear, hvalid, hholds, hlater⟩
    exact ⟨⟨hyear, hvalid, hholds⟩, hlater⟩
  · rintro ⟨⟨hyear, hvalid, hholds⟩, hlater⟩
    exact ⟨hyear, hvalid, hholds, hlater⟩

/-- Where a word for days begins with a star or every day is allowed, the rules are one. -/
theorem isRun_iff_of_hasStarredDay_or (h : words.HasStarredDay ∨ words.AllowEveryDay)
    {time : DateTime} :
    words.IsRun words.AllowBothDays time ↔ words.IsRun words.AllowDate time := by
  have hdays (hvalid : time.IsValid) (hmonth : Field.month.Allows words.month time.month) :
      words.AllowBothDays time ↔ words.AllowDate time := by
    rw [AllowDate]
    split
    · exact Iff.rfl
    · rename_i hstar
      obtain ⟨hweekdays, hdays⟩ := h.resolve_left hstar
      have hday := hdays time hvalid hmonth
      exact ⟨fun hboth => .inl hboth.1, fun _ => ⟨hday, hweekdays _ (Calendar.weekday_lt _)⟩⟩
  constructor
  · intro hrun
    exact { hrun with day := (hdays hrun.valid hrun.month).1 hrun.day }
  · intro hrun
    exact { hrun with day := (hdays hrun.valid hrun.month).2 hrun.day }

theorem AreFields.exists_allowsWeekday (h : words.AreFields) :
    ∃ day < 7, words.AllowsWeekday day := by
  obtain ⟨n, -, hle, hn⟩ := h.dayOfWeek.exists_allows
  have hle : n ≤ 7 := hle
  rcases Nat.lt_or_eq_of_le hle with hlt | rfl
  · exact ⟨n, hlt, .inl hn⟩
  · exact ⟨0, by decide, .inr ⟨rfl, hn⟩⟩

/-- On a day of a month that is allowed there is a minute that is allowed. -/
theorem AreFields.exists_run (h : words.AreFields) {year month day : Nat}
    (hyear : 1970 ≤ year ∧ year ≤ 2100) (hmonth : 1 ≤ month ∧ month ≤ 12)
    (hallows : Field.month.Allows words.month month)
    (hday : 1 ≤ day ∧ day ≤ Calendar.daysInMonth year month) :
    ∃ hour minute, ∀ days : DateTime → Prop, days ⟨year, month, day, hour, minute, 0⟩ →
      words.IsRun days ⟨year, month, day, hour, minute, 0⟩ := by
  obtain ⟨minute, -, hminuteLe, hminute⟩ := h.minute.exists_allows
  obtain ⟨hour, -, hhourLe, hhour⟩ := h.hour.exists_allows
  refine ⟨hour, minute, fun days hdays => ?_⟩
  exact ⟨⟨hmonth, hday, hhourLe, hminuteLe, by simp⟩, hyear, rfl, hminute, hhour, hallows, hdays⟩

/-- If every run by the rule of crontabs is on a day that both words for days allow, a word begins
with a star or every day is allowed. The first of some month falls on every day of the week. -/
theorem AreFields.hasStarredDay_or (h : words.AreFields)
    (hruns : ∀ time, words.IsRun words.AllowDate time → 1971 ≤ time.year →
      words.AllowBothDays time) : words.HasStarredDay ∨ words.AllowEveryDay := by
  by_cases hstar : words.HasStarredDay
  · exact .inl hstar
  have hboth {year month day : Nat} (hyear : 1971 ≤ year ∧ year ≤ 2100)
      (hmonth : 1 ≤ month ∧ month ≤ 12) (hallows : Field.month.Allows words.month month)
      (hday : 1 ≤ day ∧ day ≤ Calendar.daysInMonth year month)
      (heither : words.AllowsDayOfMonth day ∨
        words.AllowsWeekday (Calendar.weekday (Calendar.dayNumber year month day))) :
      words.AllowsDayOfMonth day ∧
        words.AllowsWeekday (Calendar.weekday (Calendar.dayNumber year month day)) := by
    obtain ⟨hour, minute, hrun⟩ := h.exists_run (by omega : 1970 ≤ year ∧ year ≤ 2100) hmonth
      hallows hday
    refine hruns _ (hrun words.AllowDate ?_) hyear.1
    rw [AllowDate, if_neg hstar]
    exact heither
  obtain ⟨month, hfirst, hlast, hmonth⟩ := h.month.exists_allows
  have hmonthRange : 1 ≤ month ∧ month ≤ 12 := ⟨hfirst, hlast⟩
  -- The first of that month has to be allowed by both words, on whatever day of the week it falls.
  have hfirstDay {day : Nat} (hday : day < 7)
      (heither : words.AllowsDayOfMonth 1 ∨ words.AllowsWeekday day) :
      words.AllowsDayOfMonth 1 ∧ words.AllowsWeekday day := by
    obtain ⟨year, hyear, hyear', rfl⟩ := Calendar.exists_year_weekday hmonthRange hday
    exact hboth ⟨hyear, hyear'⟩ hmonthRange hmonth
      ⟨le_rfl, Calendar.one_le_daysInMonth year month⟩ heither
  obtain ⟨someday, hsomeday, hallowed⟩ := h.exists_allowsWeekday
  have hone : words.AllowsDayOfMonth 1 := (hfirstDay hsomeday (.inr hallowed)).1
  have hweekdays : ∀ day < 7, words.AllowsWeekday day :=
    fun day hday => (hfirstDay hday (.inl hone)).2
  refine .inr ⟨hweekdays, fun time hvalid hmonth => ?_⟩
  have hleap := Calendar.daysInMonth_le_of_isLeap (by decide : Calendar.isLeap 1972 = true)
    time.year time.month
  exact (hboth ⟨by decide, by decide⟩ hvalid.month hmonth ⟨hvalid.day.1, hvalid.day.2.trans hleap⟩
    (.inr (hweekdays _ (Calendar.weekday_lt _)))).1

end TimeWords

/-- If the next runs of two kinds are the same at all times, a run of one kind is a run of the
other: a second before it, it is the next one. -/
theorem IsNextRun.of_forall {schedule : Schedule} {p q : DateTime → Prop}
    (hp : ∀ time : Instant, 0 ≤ time.nanoseconds → IsNextRun p time (schedule.nextAfter time))
    (hq : ∀ time : Instant, 0 ≤ time.nanoseconds → IsNextRun q time (schedule.nextAfter time))
    (hvalid : ∀ time, p time → time.IsValid) {time : DateTime} (htime : p time)
    (hseconds : 1 ≤ time.seconds) : q time := by
  let before : Instant := .ofSeconds (time.seconds - 1)
  have hbefore : before.nanoseconds = (time.seconds - 1) * 1000000000 := rfl
  have hlater (seconds : Int) : before.nanoseconds < seconds * Instant.perSecond ↔
      time.seconds ≤ seconds := by
    rw [hbefore, Instant.perSecond]
    omega
  have hp := hp before (by omega)
  have hq := hq before (by omega)
  cases hnext : schedule.nextAfter before with
  | error e =>
    rw [hnext] at hp
    exact absurd ((hlater _).2 (Int.le_refl _)) (hp.2 time htime)
  | ok next =>
    rw [hnext] at hp hq
    obtain ⟨hpnext, hafter, hleast⟩ := hp
    have hle := hleast time htime ((hlater _).2 (Int.le_refl _))
    have hge := (hlater _).1 hafter
    have heq : next = time :=
      (hvalid next hpnext).eq_of_seconds_eq (hvalid time htime) (Int.le_antisymm hle hge)
    exact heq ▸ hq.1

/-- Of an accepted expression whose words are all fields, the next run is the earliest one on a day
that both words for days allow; before the year zero none is found. It is the next run by the rule
of crontabs at all times from 1970 on if and only if one of the two words begins with a star or they
allow every day. -/
theorem nextAfter_timeWords {text : String} {schedule : Schedule} {words : TimeWords}
    (hhead : (Text.trim text).toList.head? ≠ some '@') (h : ofText text = .ok schedule)
    (hwords : Text.wordsOf text.toList = words.toList) (hfields : words.AreFields)
    (hslash : '/' ∉ words.dayOfWeek) :
    (∀ time : Instant,
      if time.wholeSeconds + 1 < 86400 * Calendar.dayNumber 0 1 1 then
        schedule.nextAfter time = .error .noMoreOccurrences
      else IsNextRun (words.IsRun words.AllowBothDays) time (schedule.nextAfter time)) ∧
    ((∀ time : Instant, 0 ≤ time.nanoseconds →
      IsNextRun (words.IsRun words.AllowDate) time (schedule.nextAfter time)) ↔
        words.HasStarredDay ∨ words.AllowEveryDay) := by
  obtain ⟨t, htiming, hreadAs⟩ := hfields.exists_timetable hhead h hwords
  have hboth {time : Instant} (htime : 86400 * Calendar.dayNumber 0 1 1 ≤ time.wholeSeconds + 1) :
      IsNextRun (words.IsRun words.AllowBothDays) time (schedule.nextAfter time) :=
    hreadAs.isNextRun hslash htiming htime
  have hbothFrom1970 (time : Instant) (htime : 0 ≤ time.nanoseconds) :
      IsNextRun (words.IsRun words.AllowBothDays) time (schedule.nextAfter time) := by
    have hseconds : 0 ≤ time.wholeSeconds := Int.ediv_nonneg htime (by decide)
    have hzero : Calendar.dayNumber 0 1 1 ≤ 0 := by decide
    exact hboth (by omega)
  refine ⟨fun time => ?_, fun hall => ?_, fun hdays time htime => ?_⟩
  · split
    · rename_i hearly
      simp only [nextAfter, htiming, Timetable.next?, if_pos hearly]
    · rename_i hearly
      exact hboth (by omega)
  · refine hfields.hasStarredDay_or fun time hrun hyear => ?_
    have hseconds : 1 ≤ time.seconds := by
      have hbounds := hrun.valid.bounds
      have hnewYear : Calendar.dayNumber 1971 1 1 ≤ time.dayNumber :=
        Int.le_trans (Calendar.newYear_mono hyear) (Calendar.newYear_le_dayNumber hrun.valid.day.1)
      have h1971 : Calendar.dayNumber 1971 1 1 = 365 := by decide
      omega
    have hrunBoth : words.IsRun words.AllowBothDays time :=
      IsNextRun.of_forall hall hbothFrom1970 (fun _ => TimeWords.IsRun.valid) hrun hseconds
    exact hrunBoth.day
  · have hsame : words.IsRun words.AllowBothDays = words.IsRun words.AllowDate :=
      funext fun _ => propext (TimeWords.isRun_iff_of_hasStarredDay_or hdays)
    rw [← hsame]
    exact hbothFrom1970 time htime

/-- Nine o'clock on working days. The word for days of the month is a star. -/
theorem nextAfter_timeWords_workdays :
    let text := "0 9 * * Mon-fri"
    let words : TimeWords := ⟨['0'], ['9'], ['*'], ['*'], ['M', 'o', 'n', '-', 'f', 'r', 'i']⟩
    (Text.trim text).toList.head? ≠ some '@' ∧ Text.wordsOf text.toList = words.toList ∧
      words.AreFields ∧ '/' ∉ words.dayOfWeek ∧
      ∃ schedule, ofText text = .ok schedule ∧ ∀ time : Instant, 0 ≤ time.nanoseconds →
        IsNextRun (words.IsRun words.AllowDate) time (schedule.nextAfter time) := by
  intro text words
  have hhead : (Text.trim text).toList.head? ≠ some '@' := by decide +kernel
  have hwords : Text.wordsOf text.toList = words.toList := by decide +kernel
  have hrenumber : Weekday.renumber words.dayOfWeek = .ok words.dayOfWeek := by decide +kernel
  have hfields : words.AreFields := .of_readField? (by decide) hrenumber rfl rfl rfl rfl rfl
  have hslash : '/' ∉ words.dayOfWeek := by decide
  have haccepted : ofText text = .ok ⟨text, .timetable {
      seconds := [⟨0, 0, 1⟩]
      minutes := [⟨0, 0, 1⟩]
      hours := [⟨9, 9, 1⟩]
      daysOfMonth := Field.dayOfMonth.allNumbers
      months := Field.month.allNumbers
      daysOfWeek := [⟨2, 6, 1⟩]
      years := Field.year.allNumbers }⟩ := by decide +kernel
  have hstar : words.HasStarredDay := .inl rfl
  exact ⟨hhead, hwords, hfields, hslash, _, haccepted,
    (nextAfter_timeWords hhead haccepted hwords hfields hslash).2.2 (.inl hstar)⟩

/-- A crontab starts the job on every thirteenth and on every Friday. In January 2024 the first day
is the fifth, a Friday; the next Friday that is a thirteenth comes in September. -/
theorem nextAfter_thirteenth_or_friday :
    let text := "0 0 13 * 5"
    let words : TimeWords := ⟨['0'], ['0'], ['1', '3'], ['*'], ['5']⟩
    let newYear : DateTime := ⟨2024, 1, 1, 0, 0, 0⟩
    let after : Instant := .ofSeconds newYear.seconds
    Text.wordsOf text.toList = words.toList ∧ words.AreFields ∧
      ∃ schedule, ofText text = .ok schedule ∧
        schedule.nextAfter after = .ok ⟨2024, 9, 13, 0, 0, 0⟩ ∧
        words.IsRun words.AllowDate ⟨2024, 1, 5, 0, 0, 0⟩ ∧
        ¬IsNextRun (words.IsRun words.AllowDate) after (schedule.nextAfter after) := by
  intro text words newYear after
  have hrenumber : Weekday.renumber words.dayOfWeek = .ok ['6'] := by decide +kernel
  have hfields : words.AreFields := .of_readField? (by decide) hrenumber rfl rfl rfl rfl rfl
  let schedule : Schedule := ⟨text, .timetable {
    seconds := [⟨0, 0, 1⟩]
    minutes := [⟨0, 0, 1⟩]
    hours := [⟨0, 0, 1⟩]
    daysOfMonth := [⟨13, 13, 1⟩]
    months := Field.month.allNumbers
    daysOfWeek := [⟨6, 6, 1⟩]
    years := Field.year.allNumbers }⟩
  have hnext : schedule.nextAfter after = .ok ⟨2024, 9, 13, 0, 0, 0⟩ := by decide +kernel
  have hzero (field : Field) : field.Allows ['0'] 0 :=
    ⟨[.span (.point 0)], .cons (.span (.point ⟨rfl, by decide⟩)) .nil, _, List.mem_singleton_self _,
      _, rfl, rfl⟩
  have hfriday : words.AllowsWeekday 5 :=
    .inl ⟨[.span (.point 5)], .cons (.span (.point ⟨rfl, by decide⟩)) .nil, _,
      List.mem_singleton_self _, _, rfl, rfl⟩
  have hjanuary : Field.month.Allows ['*'] 1 :=
    ⟨[.span .all], .cons (.span .star) .nil, _, List.mem_singleton_self _, _, rfl, rfl⟩
  have hrun : words.IsRun words.AllowDate ⟨2024, 1, 5, 0, 0, 0⟩ := by
    refine ⟨⟨by decide, by decide, by decide, by decide, by decide⟩, by decide, rfl, hzero _,
      hzero _, hjanuary, ?_⟩
    rw [TimeWords.AllowDate, if_neg (by decide)]
    exact .inr hfriday
  refine ⟨by decide +kernel, hfields, schedule, by decide +kernel, hnext, hrun, fun h => ?_⟩
  rw [hnext] at h
  have hlater : after.nanoseconds <
      (⟨2024, 1, 5, 0, 0, 0⟩ : DateTime).seconds * Instant.perSecond := by decide +kernel
  exact absurd (h.2.2 _ hrun hlater) (by decide +kernel)

end CrontabRenderer.Schedule
