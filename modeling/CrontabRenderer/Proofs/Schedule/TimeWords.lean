import CrontabRenderer.Proofs.Schedule.Accepted
import CrontabRenderer.Proofs.Schedule.WeekdayWord

/-!
# The words of a time expression

An accepted expression has five words, but the fields are read from the text that the words make
together: a field may end inside a word or go on with the next one. The fields are those of the
words if and only if every word is a well-formed field, and such words are accepted
(`ofText_timeWords`).
-/
namespace CrontabRenderer.Schedule

/-- The words of a time expression of a crontab. -/
structure TimeWords where
  minute : List Char
  hour : List Char
  dayOfMonth : List Char
  month : List Char
  dayOfWeek : List Char

namespace TimeWords

def toList (words : TimeWords) : List (List Char) :=
  [words.minute, words.hour, words.dayOfMonth, words.month, words.dayOfWeek]

/-- Every word is a complete and well-formed field for its place. -/
structure AreFields (words : TimeWords) : Prop where
  minute : Field.minute.IsWord words.minute
  hour : Field.hour.IsWord words.hour
  dayOfMonth : Field.dayOfMonth.IsWord words.dayOfMonth
  month : Field.month.IsWord words.month
  dayOfWeek : Field.dayOfWeek.IsWord words.dayOfWeek

/-- The timetable takes every field from the word in its place. It starts jobs at second zero of
every year. -/
structure ReadAs (words : TimeWords) (t : Timetable) : Prop where
  seconds : t.seconds = [⟨0, 0, 1⟩]
  minutes : Field.minute.Reads words.minute t.minutes
  hours : Field.hour.Reads words.hour t.hours
  daysOfMonth : Field.dayOfMonth.Reads words.dayOfMonth t.daysOfMonth
  months : Field.month.Reads words.month t.months
  daysOfWeek : ∃ renumbered, Weekday.renumber words.dayOfWeek = .ok renumbered ∧
    Field.dayOfWeek.Reads renumbered t.daysOfWeek
  years : t.years = Field.year.allNumbers

end TimeWords

/-- The fields of a timetable make up a text one behind the other. The year may be missing. -/
def Timetable.RunsThrough (t : Timetable) (text : List Char) : Prop :=
  ∃ second minute hour dayOfMonth month dayOfWeek year : List Char,
    text = second ++ minute ++ hour ++ dayOfMonth ++ month ++ dayOfWeek ++ year ∧
    Field.second.Reads second t.seconds ∧ Field.minute.Reads minute t.minutes ∧
    Field.hour.Reads hour t.hours ∧ Field.dayOfMonth.Reads dayOfMonth t.daysOfMonth ∧
    Field.month.Reads month t.months ∧ Field.dayOfWeek.Reads dayOfWeek t.daysOfWeek ∧
    (year = [] ∧ t.years = Field.year.allNumbers ∨ Field.year.Reads year t.years)

/-- The fields of a timetable that was read make up the text but for its spaces. -/
theorem readTimetable?_sound {s : List Char} {t : Timetable} (h : readTimetable? s = some t) :
    t.RunsThrough (s.filter (· ≠ ' ')) := by
  simp only [readTimetable?, Option.bind_eq_bind, Option.bind_eq_some_iff] at h
  obtain ⟨⟨seconds, s₁⟩, hsecond, ⟨minutes, s₂⟩, hminute, ⟨hours, s₃⟩, hhour, ⟨daysOfMonth, s₄⟩,
    hdayOfMonth, ⟨months, s₅⟩, hmonth, ⟨daysOfWeek, s₆⟩, hdayOfWeek, h⟩ := h
  obtain ⟨second, hsecond, htakes₁⟩ := readField?_sound hsecond
  obtain ⟨minute, hminute, htakes₂⟩ := readField?_sound hminute
  obtain ⟨hour, hhour, htakes₃⟩ := readField?_sound hhour
  obtain ⟨dayOfMonth, hdayOfMonth, htakes₄⟩ := readField?_sound hdayOfMonth
  obtain ⟨month, hmonth, htakes₅⟩ := readField?_sound hmonth
  obtain ⟨dayOfWeek, hreads, htakes₆⟩ := readField?_sound hdayOfWeek
  have htakes :=
    ((((htakes₁.trans htakes₂).trans htakes₃).trans htakes₄).trans htakes₅).trans htakes₆
  cases hyear : readField? .year s₆ with
  | none =>
    simp only [hyear, Option.getD_none, Option.ite_none_right_eq_some, List.isEmpty_iff] at h
    obtain ⟨rfl, h⟩ := h
    obtain rfl := Option.some.inj h
    refine ⟨second, minute, hour, dayOfMonth, month, dayOfWeek, [], ?_, hsecond, hminute, hhour,
      hdayOfMonth, hmonth, hreads, .inl ⟨rfl, rfl⟩⟩
    rw [htakes.filter_eq, List.append_nil]
  | some year =>
    obtain ⟨years, s₇⟩ := year
    simp only [hyear, Option.getD_some, Option.ite_none_right_eq_some, List.isEmpty_iff] at h
    obtain ⟨rfl, h⟩ := h
    obtain rfl := Option.some.inj h
    obtain ⟨year, hyear, htakes₇⟩ := readField?_sound hyear
    exact ⟨second, minute, hour, dayOfMonth, month, dayOfWeek, year,
      (htakes.trans htakes₇).filter_eq, hsecond, hminute, hhour, hdayOfMonth, hmonth, hreads,
      .inr hyear⟩

namespace TimeWords

/-- The text that the timetable is read from, but for its spaces. -/
def run (words : TimeWords) (renumbered : List Char) : List Char :=
  '0' :: (words.minute ++ words.hour ++ words.dayOfMonth ++ words.month ++ renumbered)

theorem AreFields.exists_readAs {words : TimeWords} {renumbered : List Char}
    (h : words.AreFields) (hrenumber : Weekday.renumber words.dayOfWeek = .ok renumbered) :
    ∃ t, words.ReadAs t ∧ readTimetable? ([' '].intercalate [['0'], words.minute, words.hour,
      words.dayOfMonth, words.month, renumbered]) = some t := by
  obtain ⟨minutes, hminutes⟩ := (Field.isWord_iff_exists_reads rfl).1 h.minute
  obtain ⟨hours, hhours⟩ := (Field.isWord_iff_exists_reads rfl).1 h.hour
  obtain ⟨daysOfMonth, hdaysOfMonth⟩ := (Field.isWord_iff_exists_reads rfl).1 h.dayOfMonth
  obtain ⟨months, hmonths⟩ := (Field.isWord_iff_exists_reads rfl).1 h.month
  obtain ⟨daysOfWeek, hdaysOfWeek⟩ := (Weekday.isWord_iff_exists_reads hrenumber).1 h.dayOfWeek
  have hseconds : Field.second.Reads ['0'] [⟨0, 0, 1⟩] :=
    ⟨[.span (.point 0)], .cons (.span (.point ⟨rfl, Nat.zero_le _⟩)) .nil, rfl⟩
  refine ⟨⟨[⟨0, 0, 1⟩], minutes, hours, daysOfMonth, months, daysOfWeek, Field.year.allNumbers⟩,
    ?_, readTimetable?_words hseconds hminutes hhours hdaysOfMonth hmonths hdaysOfWeek rfl⟩
  exact ⟨rfl, hminutes, hhours, hdaysOfMonth, hmonths, ⟨renumbered, hrenumber, hdaysOfWeek⟩, rfl⟩

/-- Words without spaces are fields if they are read to their ends. -/
theorem AreFields.of_readField? {words : TimeWords} {renumbered : List Char}
    (hspace : ∀ word ∈ words.toList, ' ' ∉ word)
    (hrenumber : Weekday.renumber words.dayOfWeek = .ok renumbered)
    {minutes hours daysOfMonth months daysOfWeek : Numbers}
    (hminute : readField? .minute words.minute = some (minutes, []))
    (hhour : readField? .hour words.hour = some (hours, []))
    (hdayOfMonth : readField? .dayOfMonth words.dayOfMonth = some (daysOfMonth, []))
    (hmonth : readField? .month words.month = some (months, []))
    (hdayOfWeek : readField? .dayOfWeek renumbered = some (daysOfWeek, [])) : words.AreFields := by
  simp only [toList, List.forall_mem_cons] at hspace
  obtain ⟨hminuteSpace, hhourSpace, hdayOfMonthSpace, hmonthSpace, hdayOfWeekSpace, -⟩ := hspace
  have hrenumbered := Weekday.space_notMem_renumber hrenumber hdayOfWeekSpace
  refine ⟨(Field.isWord_iff_exists_reads rfl).2 ⟨minutes, ?_⟩,
    (Field.isWord_iff_exists_reads rfl).2 ⟨hours, ?_⟩,
    (Field.isWord_iff_exists_reads rfl).2 ⟨daysOfMonth, ?_⟩,
    (Field.isWord_iff_exists_reads rfl).2 ⟨months, ?_⟩,
    (Weekday.isWord_iff_exists_reads hrenumber).2 ⟨daysOfWeek, ?_⟩⟩
  · exact (Field.reads_iff_readField? hminuteSpace).2 hminute
  · exact (Field.reads_iff_readField? hhourSpace).2 hhour
  · exact (Field.reads_iff_readField? hdayOfMonthSpace).2 hdayOfMonth
  · exact (Field.reads_iff_readField? hmonthSpace).2 hmonth
  · exact (Field.reads_iff_readField? hrenumbered).2 hdayOfWeek

theorem ReadAs.areFields {words : TimeWords} {t : Timetable} (h : words.ReadAs t) :
    words.AreFields := by
  obtain ⟨renumbered, hrenumber, hdaysOfWeek⟩ := h.daysOfWeek
  exact ⟨(Field.isWord_iff_exists_reads rfl).2 ⟨_, h.minutes⟩,
    (Field.isWord_iff_exists_reads rfl).2 ⟨_, h.hours⟩,
    (Field.isWord_iff_exists_reads rfl).2 ⟨_, h.daysOfMonth⟩,
    (Field.isWord_iff_exists_reads rfl).2 ⟨_, h.months⟩,
    (Weekday.isWord_iff_exists_reads hrenumber).2 ⟨_, hdaysOfWeek⟩⟩

end TimeWords

theorem readFields_eq_ok_iff {expression : String} {t : Timetable} :
    readFields expression = .ok t ↔ ∃ (words : TimeWords) (renumbered : List Char),
      Text.wordsOf expression.toList = words.toList ∧
      Weekday.renumber words.dayOfWeek = .ok renumbered ∧
      readTimetable? ([' '].intercalate [['0'], words.minute, words.hour, words.dayOfMonth,
        words.month, renumbered]) = some t := by
  constructor
  · intro h
    unfold readFields at h
    split at h
    · rename_i minute hour dayOfMonth month dayOfWeek hwords
      obtain ⟨renumbered, hrenumber, h⟩ := bind_eq_ok_iff.1 h
      simp only at h
      split at h
      · rename_i hread
        obtain rfl := Except.ok.inj h
        exact ⟨⟨minute, hour, dayOfMonth, month, dayOfWeek⟩, renumbered, hwords, hrenumber, hread⟩
      · cases h
    · cases h
  · rintro ⟨words, renumbered, hwords, hrenumber, hread⟩
    unfold readFields
    rw [hwords]
    exact bind_eq_ok_iff.2 ⟨renumbered, hrenumber, by simp only [hread]⟩

/-- What stands in the words but spaces, which they have none of. -/
theorem TimeWords.filter_intercalate {words : TimeWords} {renumbered s : List Char}
    (hwords : Text.wordsOf s = words.toList)
    (hrenumber : Weekday.renumber words.dayOfWeek = .ok renumbered) :
    ([' '].intercalate [['0'], words.minute, words.hour, words.dayOfMonth, words.month,
      renumbered]).filter (· ≠ ' ') = words.run renumbered := by
  have hspace : ∀ word ∈ words.toList, ' ' ∉ word := by
    intro word hword hc
    rw [← hwords] at hword
    exact absurd (Text.not_isBlank_of_mem_wordsOf hword ' ' hc) (by decide)
  simp only [TimeWords.toList, List.forall_mem_cons] at hspace
  obtain ⟨hminute, hhour, hdayOfMonth, hmonth, hdayOfWeek, -⟩ := hspace
  have hrenumbered := Weekday.space_notMem_renumber hrenumber hdayOfWeek
  have hjoin : ([' '].intercalate [['0'], words.minute, words.hour, words.dayOfMonth, words.month,
      renumbered]).filter (· ≠ ' ') = '0' :: (words.minute.filter (· ≠ ' ') ++
        words.hour.filter (· ≠ ' ') ++ words.dayOfMonth.filter (· ≠ ' ') ++
        words.month.filter (· ≠ ' ') ++ renumbered.filter (· ≠ ' ')) := by
    simp [List.intercalate]
  rw [hjoin, filter_ne_space hminute, filter_ne_space hhour, filter_ne_space hdayOfMonth,
    filter_ne_space hmonth, filter_ne_space hrenumbered, TimeWords.run]

theorem TimeWords.toList_injective {words words' : TimeWords} (h : words.toList = words'.toList) :
    words = words' := by
  cases words
  cases words'
  simpa [TimeWords.toList] using h

/-- An expression that is no shortcut is read as five words. -/
theorem ofText_eq_ok_iff_of_words {text : String}
    (hhead : (Text.trim text).toList.head? ≠ some '@') {schedule : Schedule} :
    ofText text = .ok schedule ↔ schedule.expression = Text.trim text ∧
      ∃ (words : TimeWords) (renumbered : List Char) (t : Timetable),
        Text.wordsOf text.toList = words.toList ∧
        Weekday.renumber words.dayOfWeek = .ok renumbered ∧ schedule.timing = .timetable t ∧
        readTimetable? ([' '].intercalate [['0'], words.minute, words.hour, words.dayOfMonth,
          words.month, renumbered]) = some t := by
  have htrim : Text.wordsOf (Text.trim text).toList = Text.wordsOf text.toList := by
    rw [Text.trim, String.toList_ofList, Text.wordsOf_trimChars]
  have htiming : ofFields (Text.trim text) = .ok schedule.timing ↔
      ∃ t, readFields (Text.trim text) = .ok t ∧ schedule.timing = .timetable t := by
    rw [ofFields]
    cases readFields (Text.trim text) <;> simp [eq_comm]
  rw [ofText_eq_ok_iff]
  refine and_congr_right fun hexpression => ?_
  rw [hexpression, if_neg hhead, htiming]
  simp only [readFields_eq_ok_iff, htrim]
  constructor
  · rintro ⟨t, ⟨words, renumbered, hwords, hrenumber, hread⟩, htiming⟩
    exact ⟨words, renumbered, t, hwords, hrenumber, htiming, hread⟩
  · rintro ⟨words, renumbered, t, hwords, hrenumber, htiming, hread⟩
    exact ⟨t, ⟨words, renumbered, hwords, hrenumber, hread⟩, htiming⟩

/-- If the words of an accepted expression are all fields, the timetable takes them as they are. -/
theorem TimeWords.AreFields.exists_timetable {text : String} {schedule : Schedule}
    {words : TimeWords} (hfields : words.AreFields)
    (hhead : (Text.trim text).toList.head? ≠ some '@') (h : ofText text = .ok schedule)
    (hwords : Text.wordsOf text.toList = words.toList) :
    ∃ t, schedule.timing = .timetable t ∧ words.ReadAs t := by
  obtain ⟨-, words', renumbered, t, hwords', hrenumber, htiming, hread⟩ :=
    (ofText_eq_ok_iff_of_words hhead).1 h
  obtain rfl := toList_injective (hwords.symm.trans hwords')
  obtain ⟨t', hreadAs, hread'⟩ := hfields.exists_readAs hrenumber
  rw [hread, Option.some_inj] at hread'
  exact ⟨t, htiming, hread' ▸ hreadAs⟩

/-- An expression that is no shortcut is accepted only with five words. The fields make up the text
of the words; they are the words if and only if these are all fields, and such words are
accepted. -/
theorem ofText_timeWords {text : String} (hhead : (Text.trim text).toList.head? ≠ some '@') :
    (∀ schedule, ofText text = .ok schedule → ∃ words : TimeWords, ∃ renumbered t,
      Text.wordsOf text.toList = words.toList ∧
      Weekday.renumber words.dayOfWeek = .ok renumbered ∧ schedule.timing = .timetable t ∧
      t.RunsThrough (words.run renumbered) ∧ (words.ReadAs t ↔ words.AreFields)) ∧
    ∀ words : TimeWords, ∀ renumbered, Text.wordsOf text.toList = words.toList →
      words.AreFields → Weekday.renumber words.dayOfWeek = .ok renumbered →
      ∃ t, ofText text = .ok ⟨Text.trim text, .timetable t⟩ ∧ words.ReadAs t := by
  constructor
  · intro schedule h
    obtain ⟨-, words, renumbered, t, hwords, hrenumber, htiming, hread⟩ :=
      (ofText_eq_ok_iff_of_words hhead).1 h
    refine ⟨words, renumbered, t, hwords, hrenumber, htiming, ?_, TimeWords.ReadAs.areFields,
      fun hfields => ?_⟩
    · rw [← TimeWords.filter_intercalate hwords hrenumber]
      exact readTimetable?_sound hread
    · obtain ⟨t', htiming', hreadAs⟩ := hfields.exists_timetable hhead h hwords
      rw [htiming, Timing.timetable.injEq] at htiming'
      rwa [htiming']
  · intro words renumbered hwords hfields hrenumber
    obtain ⟨t, hreadAs, hread⟩ := hfields.exists_readAs hrenumber
    refine ⟨t, (ofText_eq_ok_iff_of_words hhead).2 ⟨rfl, ?_⟩, hreadAs⟩
    exact ⟨words, renumbered, t, hwords, hrenumber, rfl, hread⟩

/-- Nine o'clock, Friday to Sunday. The days run up to Sunday as day `7`. -/
theorem ofText_timeWords_weekend :
    let words : TimeWords := ⟨['0'], ['9'], ['*'], ['*'], ['5', '-', '7']⟩
    (Text.trim " 0 9\t* * 5-7").toList.head? ≠ some '@' ∧ words.AreFields ∧
      ∃ t, ofText " 0 9\t* * 5-7" = .ok ⟨"0 9\t* * 5-7", .timetable t⟩ ∧ words.ReadAs t := by
  intro words
  have hhead : (Text.trim " 0 9\t* * 5-7").toList.head? ≠ some '@' := by decide +kernel
  have hrenumber : Weekday.renumber words.dayOfWeek = .ok ['6', '-', '7', ',', '1'] := by
    decide +kernel
  have hfields : words.AreFields := .of_readField? (by decide) hrenumber rfl rfl rfl rfl rfl
  exact ⟨hhead, hfields, (ofText_timeWords hhead).2 words _ (by decide +kernel) hfields hrenumber⟩

/-- The first word holds the minute and the hour, so every word after it stands for the next field
and the last one for the year. -/
theorem ofText_two_fields_in_a_word :
    let text := "5* 3 * * *"
    (Text.trim text).toList.head? ≠ some '@' ∧
      Text.wordsOf text.toList = [['5', '*'], ['3'], ['*'], ['*'], ['*']] ∧
      ofText text = .ok ⟨text, .timetable {
        seconds := [⟨0, 0, 1⟩]
        minutes := [⟨5, 5, 1⟩]
        hours := Field.hour.allNumbers
        daysOfMonth := [⟨3, 3, 1⟩]
        months := Field.month.allNumbers
        daysOfWeek := Field.dayOfWeek.allNumbers
        years := Field.year.allNumbers }⟩ ∧
      ¬Field.minute.IsWord ['5', '*'] := by
  refine ⟨by decide +kernel, by decide +kernel, by decide +kernel, fun h => ?_⟩
  obtain ⟨numbers, hreads⟩ := (Field.isWord_iff_exists_reads rfl).1 h
  have hread : readField? .minute ['5', '*'] = some ([⟨5, 5, 1⟩], ['*']) := by decide +kernel
  have hwhole := hreads.readField?_last
  rw [hread] at hwhole
  cases hwhole

end CrontabRenderer.Schedule
