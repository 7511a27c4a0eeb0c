import CrontabRenderer.Proofs.Schedule.FieldText

/-!
# Reading word by word

A field in front of a text is read whole, and nothing of the text with it, where the text does not
go on with the field (`Field.Reads.readField?_append`). Six fields with a space between them are
read as these fields (`readTimetable?_words`).
-/
namespace CrontabRenderer.Schedule

/-- What stands in front of the text ends there: no digit or letter follows, and none of the signs,
also behind spaces. -/
def Parts (signs : List Char) (s : List Char) : Prop :=
  (∀ c ∈ s.head?, c.isDigit = false ∧ c.isAlpha = false) ∧ ∀ c ∈ (skipSpaces s).head?, c ∉ signs

theorem Parts.mono {signs signs' s : List Char} (h : Parts signs s) (hsigns : signs' ⊆ signs) :
    Parts signs' s :=
  ⟨h.1, fun c hc hmem => h.2 c hc (hsigns hmem)⟩

theorem skipSpaces_cons {c : Char} (hc : c ≠ ' ') (s : List Char) :
    skipSpaces (c :: s) = c :: s := by
  simp [skipSpaces, hc]

@[simp] theorem skipSpaces_skipSpaces (s : List Char) : skipSpaces (skipSpaces s) = skipSpaces s :=
  List.dropWhile_idempotent _ s

theorem parts_cons {signs : List Char} {c : Char} (hspace : c ≠ ' ') (hdigit : c.isDigit = false)
    (halpha : c.isAlpha = false) (hsigns : c ∉ signs) (s : List Char) : Parts signs (c :: s) := by
  simp [Parts, skipSpaces_cons hspace, hdigit, halpha, hsigns]

theorem parts_nil (signs : List Char) : Parts signs [] := by simp [Parts, skipSpaces]

theorem readSign?_eq_none {sign : Char} {s : List Char} (h : ∀ c ∈ s.head?, c ≠ sign) :
    readSign? sign s = none := by
  cases s with
  | nil => rfl
  | cons c s => simpa [readSign?] using h

/-- Spaces that are skipped hide no sign. -/
theorem Parts.readSign?_eq_none {signs s s' : List Char} (h : Parts signs s)
    (hs : s' = s ∨ s' = skipSpaces s) {sign : Char} (hsign : sign ∈ signs) (hspace : sign ≠ ' ') :
    readSign? sign s' = none := by
  have hskipped : readSign? sign (skipSpaces s) = none :=
    Schedule.readSign?_eq_none fun c hc hsame => h.2 c hc (hsame ▸ hsign)
  rcases hs with rfl | rfl
  · cases s' with
    | nil => rfl
    | cons c s =>
      by_cases hc : c = ' '
      · simp [readSign?, hc, hspace.symm]
      · rwa [skipSpaces_cons hc] at hskipped
  · exact hskipped

theorem takeWhile_append {p : Char → Bool} {text s : List Char} (htext : ∀ c ∈ text, p c = true)
    (hs : ∀ c ∈ s.head?, p c = false) :
    (text ++ s).takeWhile p = text ∧ (text ++ s).dropWhile p = s := by
  rw [List.takeWhile_append_of_pos htext, List.dropWhile_append_of_pos htext]
  cases s with
  | nil => simp
  | cons c s => simp [hs c rfl]

theorem skipSpaces_eq_self {s : List Char} {c : Char} (hc : s.head? = some c) (hspace : c ≠ ' ') :
    skipSpaces s = s := by
  obtain ⟨rest, rfl⟩ := List.head?_eq_some_iff.1 hc
  exact skipSpaces_cons hspace _

theorem IsNumeral.exists_head? {text : List Char} {n : Nat} (h : IsNumeral text n)
    (s : List Char) : ∃ c, (text ++ s).head? = some c ∧ c.isDigit = true := by
  obtain ⟨c, rest, rfl⟩ := List.exists_cons_of_ne_nil h.ne_nil
  exact ⟨c, rfl, h.isDigit c List.mem_cons_self⟩

theorem IsName.exists_head? {text : List Char} (h : IsName text) (s : List Char) :
    ∃ c, (text ++ s).head? = some c ∧ c.isAlpha = true := by
  obtain ⟨c, rest, rfl⟩ := List.exists_cons_of_ne_nil h.1
  exact ⟨c, rfl, h.2 c List.mem_cons_self⟩

theorem IsNumeral.readNumber?_append {text s : List Char} {n : Nat} (h : IsNumeral text n)
    (hs : ∀ c ∈ s.head?, c.isDigit = false) :
    readNumber? (text ++ s) = some (n, skipSpaces s) := by
  obtain ⟨c, hc, hdigit⟩ := h.exists_head? s
  have hspace : c ≠ ' ' := by rintro rfl; revert hdigit; decide
  obtain ⟨htake, hdrop⟩ := takeWhile_append h.isDigit hs
  simp [readNumber?, skipSpaces_eq_self hc hspace, htake, hdrop, h.1, h.2]

theorem IsName.readName?_append {text s : List Char} (h : IsName text)
    (hs : ∀ c ∈ s.head?, c.isAlpha = false) :
    readName? (text ++ s) = some (text, skipSpaces s) := by
  obtain ⟨c, hc, halpha⟩ := h.exists_head? s
  have hspace : c ≠ ' ' := by rintro rfl; revert halpha; decide
  obtain ⟨htake, hdrop⟩ := takeWhile_append h.2 hs
  simp [readName?, skipSpaces_eq_self hc hspace, htake, hdrop, h.1]

theorem not_isDigit_of_isAlpha {c : Char} (h : c.isAlpha = true) : c.isDigit = false := by
  have halpha : (decide (65 ≤ c.val ∧ c.val ≤ 90) ||
      (decide (97 ≤ c.val) && decide (c.val ≤ 122))) = true := h
  have hdigit : c.isDigit = (decide (48 ≤ c.val) && decide (c.val ≤ 57)) := rfl
  simp only [Bool.or_eq_true, Bool.and_eq_true, decide_eq_true_eq, UInt32.le_iff_toNat_le,
    UInt32.reduceToNat] at halpha
  rw [hdigit, Bool.and_eq_false_iff, decide_eq_false_iff_not, decide_eq_false_iff_not,
    UInt32.le_iff_toNat_le, UInt32.le_iff_toNat_le]
  simp only [UInt32.reduceToNat]
  omega

/-- No number stands in front of a letter. -/
theorem readNumber?_eq_none {s : List Char} {c : Char} (hc : s.head? = some c)
    (halpha : c.isAlpha = true) : readNumber? s = none := by
  have hspace : c ≠ ' ' := by rintro rfl; revert halpha; decide
  obtain ⟨rest, rfl⟩ := List.head?_eq_some_iff.1 hc
  simp [readNumber?, skipSpaces_cons hspace, not_isDigit_of_isAlpha halpha, Decimal.ofDigits?]

/-- A digit or a letter is no sign for all numbers. -/
theorem readSpan?_eq {field : Field} {s : List Char} {c : Char} (hc : s.head? = some c)
    (h : c.isDigit = true ∨ c.isAlpha = true) :
    readSpan? field s = (readRange? s <|> readPoint? s <|> readNamedRange? s) := by
  have hall (sign : Char) (hsign : sign.isDigit = false ∧ sign.isAlpha = false) :
      readAll? sign s = none := by
    have hne : ∀ d ∈ s.head?, d ≠ sign := by
      rintro d hd rfl
      obtain rfl : d = c := by simpa [hc] using hd.symm
      simp [hsign] at h
    rw [readAll?, readSign?_eq_none hne, Option.map_none]
  simp [readSpan?, hall '?' (by decide), hall '*' (by decide)]

/-- No run of numbers begins with a single name. -/
theorem IsName.readSpan?_eq_none {field : Field} {name s : List Char} (h : IsName name)
    (hs : Parts ['-'] s) : readSpan? field (name ++ s) = none := by
  obtain ⟨c, hc, halpha⟩ := h.exists_head? s
  have hnumber := readNumber?_eq_none hc halpha
  have hname := h.readName?_append fun c hc => (hs.1 c hc).2
  have hsign := hs.readSign?_eq_none (.inr rfl) (List.mem_singleton_self '-') (by decide)
  rw [readSpan?_eq hc (.inr halpha)]
  simp [readRange?, readPoint?, readNamedRange?, hnumber, hname, hsign]

/-- A run of numbers is read up to a text that does not make it a range. -/
theorem Span.IsText.readSpan?_append {field : Field} {span : Span} {text s : List Char}
    (h : span.IsText field text) (hs : Parts ['-'] s) :
    ∃ rest, (rest = s ∨ rest = skipSpaces s) ∧ readSpan? field (text ++ s) = some (span, rest) := by
  have hdash (text : List Char) : Parts [] ('-' :: text) :=
    parts_cons (by decide) (by decide) (by decide) (by simp) text
  cases h with
  | star => exact ⟨s, .inl rfl, by simp [readSpan?, readAll?, readSign?]⟩
  | anyDay hany => exact ⟨s, .inl rfl, by simp [readSpan?, readAll?, readSign?, hany]⟩
  | point h =>
    refine ⟨skipSpaces s, .inr rfl, ?_⟩
    obtain ⟨c, hc, hdigit⟩ := h.exists_head? s
    have hnumber := h.readNumber?_append fun c hc => (hs.1 c hc).1
    have hsign := hs.readSign?_eq_none (.inr rfl) (List.mem_singleton_self '-') (by decide)
    rw [readSpan?_eq hc (.inl hdigit)]
    simp [readRange?, readPoint?, hnumber, hsign]
  | @range text text' first last hfirst hlast =>
    refine ⟨skipSpaces s, .inr rfl, ?_⟩
    rw [List.append_assoc, List.cons_append]
    obtain ⟨c, hc, hdigit⟩ := hfirst.exists_head? ('-' :: (text' ++ s))
    have hfirst := hfirst.readNumber?_append fun c hc => ((hdash (text' ++ s)).1 c hc).1
    have hlast := hlast.readNumber?_append fun c hc => (hs.1 c hc).1
    rw [readSpan?_eq hc (.inl hdigit)]
    simp [readRange?, hfirst, skipSpaces_cons, readSign?, hlast]
  | @namedRange first last hfirst hlast =>
    refine ⟨skipSpaces s, .inr rfl, ?_⟩
    rw [List.append_assoc, List.cons_append]
    obtain ⟨c, hc, halpha⟩ := hfirst.exists_head? ('-' :: (last ++ s))
    have hnumber := readNumber?_eq_none hc halpha
    have hfirst := hfirst.readName?_append fun c hc => ((hdash (last ++ s)).1 c hc).2
    have hlast := hlast.readName?_append fun c hc => (hs.1 c hc).2
    rw [readSpan?_eq hc (.inr halpha)]
    simp [readRange?, readPoint?, readNamedRange?, hnumber, hfirst, skipSpaces_cons, readSign?,
      hlast]

/-- An item is read up to a text that does not go on with it. -/
theorem Item.IsText.readItem?_append {field : Field} {item : Item} {text s : List Char}
    (h : item.IsText field text) (hs : Parts ['-', '/'] s) :
    ∃ rest, (rest = s ∨ rest = skipSpaces s) ∧ readItem? field (text ++ s) = some (item, rest) := by
  have hrange : Parts ['-'] s := hs.mono (by simp)
  cases h with
  | span h =>
    obtain ⟨rest, hrest, hspan⟩ := h.readSpan?_append hrange
    have hsign : readSign? '/' rest = none := hs.readSign?_eq_none hrest (by simp) (by decide)
    exact ⟨rest, hrest, by simp [readItem?, readStepped?, hspan, hsign]⟩
  | @stepped span step text text' h hstep =>
    refine ⟨skipSpaces s, .inr rfl, ?_⟩
    have hslash : Parts ['-'] ('/' :: (text' ++ s)) :=
      parts_cons (by decide) (by decide) (by decide) (by decide) _
    obtain ⟨rest, hrest, hspan⟩ := h.readSpan?_append hslash
    rw [skipSpaces_cons (by decide), or_self] at hrest
    have hnumber := hstep.readNumber?_append fun c hc => (hs.1 c hc).1
    rw [List.append_assoc, List.cons_append]
    simp [readItem?, readStepped?, hspan, hrest, readSign?, hnumber]
  | named h =>
    refine ⟨skipSpaces s, .inr rfl, ?_⟩
    have hname := h.readName?_append fun c hc => (hs.1 c hc).2
    simp [readItem?, readStepped?, h.readSpan?_eq_none hrange, hname]

/-- Whether more items follow or not, an item in front of them ends there. -/
theorem Parts.more {s : List Char} (hs : Parts ['-', '/', ','] s) (texts : List (List Char)) :
    Parts ['-', '/'] (texts.flatMap (',' :: ·) ++ s) := by
  cases texts with
  | nil => exact hs.mono (by simp)
  | cons next texts => exact parts_cons (by decide) (by decide) (by decide) (by decide) _

/-- Items behind commas are all read, up to a text that does not go on with them. -/
theorem readMoreItems_append {field : Field} {items : List Item} {texts : List (List Char)}
    (h : List.Forall₂ (Item.IsText field) items texts) {s : List Char}
    (hs : Parts ['-', '/', ','] s) {fuel : Nat} (hfuel : texts.length ≤ fuel) {start : List Char}
    (hstart : start = texts.flatMap (',' :: ·) ++ s ∨
      start = skipSpaces (texts.flatMap (',' :: ·) ++ s)) :
    ∃ rest, (rest = s ∨ rest = skipSpaces s) ∧
      readMoreItems field fuel start = (items, rest) := by
  induction h generalizing fuel start with
  | nil =>
    refine ⟨start, hstart, ?_⟩
    have hsign : readSign? ',' start = none := hs.readSign?_eq_none hstart (by simp) (by decide)
    cases fuel with
    | zero => rfl
    | succ fuel => simp [readMoreItems, hsign]
  | @cons item text items texts htext htexts ih =>
    rw [List.flatMap_cons, List.append_assoc, List.cons_append, skipSpaces_cons (by decide),
      or_self] at hstart
    obtain ⟨mid, hmid, hitem⟩ := htext.readItem?_append (hs.more texts)
    obtain ⟨fuel, rfl⟩ : ∃ f, fuel = f + 1 := ⟨fuel - 1, by simp at hfuel; omega⟩
    have hfuel : texts.length ≤ fuel := by simpa using hfuel
    obtain ⟨rest, hrest, hmore⟩ := ih hfuel hmid
    refine ⟨rest, hrest, ?_⟩
    simp [readMoreItems, hstart, readSign?, hitem, hmore]

theorem Field.Lists.exists_texts {field : Field} {text : List Char} {items : List Item}
    (h : field.Lists text items) :
    ∃ first texts, List.Forall₂ (Item.IsText field) items (first :: texts) ∧
      text = first ++ texts.flatMap (',' :: ·) := by
  rw [Field.Lists, Text.cutAt_eq_splitOn] at h
  have hjoin : [','].intercalate (text.splitOn ',') = text := List.intercalate_splitOn ','
  obtain ⟨first, texts, hcut⟩ := List.exists_cons_of_ne_nil (List.splitOnP_ne_nil (· == ',') text)
  have hcut : text.splitOn ',' = first :: texts := hcut
  rw [hcut] at h hjoin
  exact ⟨first, texts, h, by rw [← hjoin, intercalate_comma]⟩

/-- A field begins with a digit, a letter or a sign for all its numbers. -/
theorem Field.Lists.exists_head? {field : Field} {text : List Char} {items : List Item}
    (h : field.Lists text items) (s : List Char) :
    ∃ c, (text ++ s).head? = some c ∧
      (c.isDigit = true ∨ c.isAlpha = true ∨ c = '*' ∨ c = '?') := by
  have hspan {span : Span} {text : List Char} (h : span.IsText field text) (s : List Char) :
      ∃ c, (text ++ s).head? = some c ∧
        (c.isDigit = true ∨ c.isAlpha = true ∨ c = '*' ∨ c = '?') := by
    cases h with
    | star => exact ⟨'*', rfl, by simp⟩
    | anyDay => exact ⟨'?', rfl, by simp⟩
    | point h =>
      obtain ⟨c, hc, hdigit⟩ := h.exists_head? s
      exact ⟨c, hc, .inl hdigit⟩
    | range hfirst hlast =>
      obtain ⟨c, hc, hdigit⟩ := hfirst.exists_head? _
      exact ⟨c, by rw [List.append_assoc]; exact hc, .inl hdigit⟩
    | namedRange hfirst hlast =>
      obtain ⟨c, hc, halpha⟩ := hfirst.exists_head? _
      exact ⟨c, by rw [List.append_assoc]; exact hc, .inr (.inl halpha)⟩
  obtain ⟨first, texts, hitems, rfl⟩ := h.exists_texts
  rw [List.append_assoc]
  cases hitems with
  | cons hitem _ =>
    cases hitem with
    | span h => exact hspan h _
    | stepped hspan' hstep =>
      rw [List.append_assoc]
      exact hspan hspan' _
    | named hname =>
      obtain ⟨c, hc, halpha⟩ := hname.exists_head? _
      exact ⟨c, hc, .inr (.inl halpha)⟩

theorem length_le_length_flatMap (texts : List (List Char)) :
    texts.length ≤ (texts.flatMap (',' :: ·)).length := by
  induction texts with
  | nil => simp
  | cons text texts ih =>
    simp only [List.length_cons, List.flatMap_cons, List.length_append]
    omega

/-- A field is read whole, up to a text that does not go on with it. -/
theorem Field.Reads.readField?_append {field : Field} {text s : List Char} {numbers : Numbers}
    (h : field.Reads text numbers) (hs : Parts ['-', '/', ','] s) :
    readField? field (text ++ s) = some (numbers, skipSpaces s) := by
  obtain ⟨items, hitems, hnumbers⟩ := h
  obtain ⟨c, hc, hhead⟩ := hitems.exists_head? s
  have hspace : c ≠ ' ' := by
    rintro rfl
    revert hhead
    decide
  obtain ⟨first, texts, htexts, rfl⟩ := hitems.exists_texts
  rw [List.append_assoc] at hc ⊢
  cases htexts with
  | @cons item _ items _ hitem htexts =>
    obtain ⟨mid, hmid, hread⟩ := hitem.readItem?_append (hs.more texts)
    have hfuel : texts.length ≤ mid.length := by
      cases texts with
      | nil => exact Nat.zero_le _
      | cons next texts =>
        rw [List.flatMap_cons, List.append_assoc, List.cons_append, skipSpaces_cons (by decide),
          or_self] at hmid
        have := length_le_length_flatMap texts
        simp only [hmid, List.length_cons, List.length_append]
        omega
    obtain ⟨rest, hrest, hmore⟩ := readMoreItems_append htexts hs hfuel hmid
    have hskip : skipSpaces rest = skipSpaces s := by rcases hrest with rfl | rfl <;> simp
    simp [readField?, skipSpaces_eq_self hc hspace, hread, hmore, hnumbers, hskip]

/-- Behind a field and a space, the next field begins. -/
theorem Field.Reads.readField?_space {field field' : Field} {text text' : List Char}
    {numbers numbers' : Numbers} (h : field.Reads text numbers) (h' : field'.Reads text' numbers')
    (s : List Char) :
    readField? field (text ++ ' ' :: (text' ++ s)) = some (numbers, text' ++ s) := by
  obtain ⟨items, hitems, -⟩ := h'
  obtain ⟨c, hc, hhead⟩ := hitems.exists_head? s
  have hspace : c ≠ ' ' := by
    rintro rfl
    revert hhead
    decide
  have hskip : skipSpaces (' ' :: (text' ++ s)) = text' ++ s :=
    calc skipSpaces (' ' :: (text' ++ s))
      _ = skipSpaces (text' ++ s) := by simp [skipSpaces]
      _ = text' ++ s := skipSpaces_eq_self hc hspace
  have hparts : Parts ['-', '/', ','] (' ' :: (text' ++ s)) := by
    refine ⟨by simp, fun d hd hmem => ?_⟩
    rw [hskip, hc, Option.mem_some_iff] at hd
    subst hd
    revert hhead
    simp only [List.mem_cons, List.not_mem_nil, or_false] at hmem
    rcases hmem with rfl | rfl | rfl <;> decide
  rw [h.readField?_append hparts, hskip]

theorem Field.Reads.readField?_last {field : Field} {text : List Char} {numbers : Numbers}
    (h : field.Reads text numbers) : readField? field text = some (numbers, []) := by
  simpa [skipSpaces] using h.readField?_append (parts_nil _)

/-- A text without spaces is a field if and only if it is read to its end. -/
theorem Field.reads_iff_readField? {field : Field} {text : List Char} {numbers : Numbers}
    (hspace : ' ' ∉ text) :
    field.Reads text numbers ↔ readField? field text = some (numbers, []) := by
  constructor
  · exact Reads.readField?_last
  · intro h
    obtain ⟨whole, hreads, htakes⟩ := readField?_sound h
    rwa [← htakes.filter_eq, filter_ne_space hspace] at hreads

/-- Six fields with a space between them make the timetable of their numbers, in every year. -/
theorem readTimetable?_words {second minute hour dayOfMonth month dayOfWeek : List Char}
    {t : Timetable} (hsecond : Field.second.Reads second t.seconds)
    (hminute : Field.minute.Reads minute t.minutes) (hhour : Field.hour.Reads hour t.hours)
    (hdayOfMonth : Field.dayOfMonth.Reads dayOfMonth t.daysOfMonth)
    (hmonthReads : Field.month.Reads month t.months)
    (hdayOfWeek : Field.dayOfWeek.Reads dayOfWeek t.daysOfWeek)
    (hyears : t.years = Field.year.allNumbers) :
    readTimetable? ([' '].intercalate [second, minute, hour, dayOfMonth, month, dayOfWeek]) =
      some t := by
  have hjoin : [' '].intercalate [second, minute, hour, dayOfMonth, month, dayOfWeek] =
      second ++ ' ' :: (minute ++ ' ' :: (hour ++ ' ' :: (dayOfMonth ++ ' ' :: (month ++ ' ' ::
        dayOfWeek)))) := by
    simp [List.intercalate]
  have hmonth : readField? .month (month ++ ' ' :: dayOfWeek) = some (t.months, dayOfWeek) := by
    simpa using hmonthReads.readField?_space hdayOfWeek []
  have hnoYear : readField? .year [] = none := rfl
  rw [hjoin, readTimetable?, hsecond.readField?_space hminute]
  simp [hminute.readField?_space hhour, hhour.readField?_space hdayOfMonth,
    hdayOfMonth.readField?_space hmonthReads, hmonth, hdayOfWeek.readField?_last, hnoYear, ← hyears]

end CrontabRenderer.Schedule
