import CrontabRenderer.Proofs.Decimal.Digits
import CrontabRenderer.Proofs.Results
import CrontabRenderer.Proofs.Text.Words
import CrontabRenderer.Schedule.Reader

/-!
# Texts of fields

The grammar of a field: items with commas between them, each a star, a question mark where one may
stand, a number, a name or a range of either, and a step behind any of them but a single name
(`Field.Reads`). What the reader takes off the front of a text is, without its spaces, such a text
with the numbers that the reader returns (`readField?_sound`).
-/
namespace CrontabRenderer.Schedule

def IsNumeral (text : List Char) (n : Nat) : Prop :=
  Decimal.ofDigits? 10 text = some n ∧ n ≤ largestNumber

def IsName (text : List Char) : Prop := text ≠ [] ∧ ∀ c ∈ text, c.isAlpha = true

inductive Span.IsText (field : Field) : Span → List Char → Prop
  | star : IsText field .all ['*']
  | anyDay (h : field.allowsAny = true) : IsText field .all ['?']
  | point {text : List Char} {n : Nat} (h : IsNumeral text n) : IsText field (.point n) text
  | range {text text' : List Char} {first last : Nat} (hfirst : IsNumeral text first)
      (hlast : IsNumeral text' last) : IsText field (.range first last) (text ++ '-' :: text')
  | namedRange {first last : List Char} (hfirst : IsName first) (hlast : IsName last) :
      IsText field (.namedRange first last) (first ++ '-' :: last)

inductive Item.IsText (field : Field) : Item → List Char → Prop
  | span {span : Span} {text : List Char} (h : span.IsText field text) :
      IsText field (.span span) text
  | stepped {span : Span} {step : Nat} {text text' : List Char} (h : span.IsText field text)
      (hstep : IsNumeral text' step) : IsText field (.stepped span step) (text ++ '/' :: text')
  | named {name : List Char} (h : IsName name) : IsText field (.named name) name

/-- A text is the items of a field with commas between them. -/
def Field.Lists (field : Field) (text : List Char) (items : List Item) : Prop :=
  List.Forall₂ (Item.IsText field) items (Text.cutAt (· = ',') text)

/-- A text is a field that allows the numbers. -/
def Field.Reads (field : Field) (text : List Char) (numbers : Numbers) : Prop :=
  ∃ items, field.Lists text items ∧ field.numbers? items = some numbers

/-! ## Characters of the texts -/

theorem IsNumeral.isDigit {text : List Char} {n : Nat} (h : IsNumeral text n) :
    ∀ c ∈ text, c.isDigit = true :=
  Decimal.isDigit_of_ofDigits? h.1

theorem IsNumeral.ne_nil {text : List Char} {n : Nat} (h : IsNumeral text n) : text ≠ [] := by
  rintro rfl
  cases h.1

/-- A character of a run other than a sign is a digit or a letter. -/
theorem Span.IsText.mem {field : Field} {span : Span} {text : List Char}
    (h : span.IsText field text) {c : Char} (hc : c ∈ text) :
    c.isDigit = true ∨ c.isAlpha = true ∨ c = '*' ∨ c = '?' ∨ c = '-' := by
  cases h with
  | star => simp_all
  | anyDay => simp_all
  | point h => exact .inl (h.isDigit c hc)
  | range hfirst hlast =>
    rcases List.mem_append.1 hc with hc | hc
    · exact .inl (hfirst.isDigit c hc)
    · rcases List.mem_cons.1 hc with rfl | hc
      · simp
      · exact .inl (hlast.isDigit c hc)
  | namedRange hfirst hlast =>
    rcases List.mem_append.1 hc with hc | hc
    · exact .inr (.inl (hfirst.2 c hc))
    · rcases List.mem_cons.1 hc with rfl | hc
      · simp
      · exact .inr (.inl (hlast.2 c hc))

theorem Span.IsText.slash_notMem {field : Field} {span : Span} {text : List Char}
    (h : span.IsText field text) : '/' ∉ text := by
  intro hc
  rcases h.mem hc with h | h | h | h | h <;> revert h <;> decide

theorem Span.IsText.comma_notMem {field : Field} {span : Span} {text : List Char}
    (h : span.IsText field text) : ',' ∉ text := by
  intro hc
  rcases h.mem hc with h | h | h | h | h <;> revert h <;> decide

theorem IsNumeral.notMem {text : List Char} {n : Nat} (h : IsNumeral text n) {c : Char}
    (hc : c.isDigit = false) : c ∉ text := by
  intro hmem
  rw [h.isDigit c hmem] at hc
  cases hc

theorem IsName.notMem {text : List Char} (h : IsName text) {c : Char} (hc : c.isAlpha = false) :
    c ∉ text := by
  intro hmem
  rw [h.2 c hmem] at hc
  cases hc

theorem Item.IsText.comma_notMem {field : Field} {item : Item} {text : List Char}
    (h : item.IsText field text) : ',' ∉ text := by
  cases h with
  | span h => exact h.comma_notMem
  | stepped h hstep => simp [h.comma_notMem, hstep.notMem]
  | named h => exact h.notMem (by decide)

theorem intercalate_comma (text : List Char) (texts : List (List Char)) :
    [','].intercalate (text :: texts) = text ++ texts.flatMap (',' :: ·) := by
  induction texts generalizing text with
  | nil => simp
  | cons next texts ih =>
    rw [List.intercalate_cons_of_ne_nil (by simp), ih]
    simp

/-- Items with commas between them are a field. -/
theorem Field.lists_intercalate {field : Field} {items : List Item} {texts : List (List Char)}
    (hne : texts ≠ []) (h : List.Forall₂ (Item.IsText field) items texts) :
    field.Lists ([','].intercalate texts) items := by
  have hcomma : ∀ text ∈ texts, ',' ∉ text := by
    intro text htext
    obtain ⟨item, -, hitem⟩ := exists_left_of_forall₂ h htext
    exact hitem.comma_notMem
  rwa [Field.Lists, Text.cutAt_eq_splitOn, List.splitOn_intercalate ',' hcomma hne]

/-! ## What a reader takes -/

/-- Behind a text, with any spaces before, in and after it, a rest is left. -/
def Takes (s text rest : List Char) : Prop :=
  ∃ taken, s = taken ++ rest ∧ taken.filter (· ≠ ' ') = text

theorem Takes.trans {s mid rest text text' : List Char} (h : Takes s text mid)
    (h' : Takes mid text' rest) : Takes s (text ++ text') rest := by
  obtain ⟨taken, rfl, rfl⟩ := h
  obtain ⟨taken', rfl, rfl⟩ := h'
  exact ⟨taken ++ taken', by simp, List.filter_append ..⟩

theorem Takes.filter_eq {s text : List Char} (h : Takes s text []) : s.filter (· ≠ ' ') = text := by
  obtain ⟨taken, rfl, rfl⟩ := h
  rw [List.append_nil]

theorem filter_ne_space {text : List Char} (h : ' ' ∉ text) : text.filter (· ≠ ' ') = text :=
  List.filter_eq_self.2 fun c hc => by simpa using ne_of_mem_of_not_mem hc h

theorem Takes.skipSpaces (s : List Char) : Takes s [] (skipSpaces s) := by
  refine ⟨s.takeWhile (· = ' '), List.takeWhile_append_dropWhile.symm, ?_⟩
  apply List.filter_eq_nil_iff.2
  intro c hc
  simpa using List.mem_takeWhile_imp hc

theorem Takes.takeWhile {p : Char → Bool} (hp : p ' ' = false) (s : List Char) :
    Takes (Schedule.skipSpaces s) ((Schedule.skipSpaces s).takeWhile p)
      ((Schedule.skipSpaces s).dropWhile p) := by
  refine ⟨_, List.takeWhile_append_dropWhile.symm, filter_ne_space fun hc => ?_⟩
  have hspace := List.mem_takeWhile_imp hc
  rw [hp] at hspace
  cases hspace

theorem readSign?_eq_some {sign : Char} {s rest : List Char} :
    readSign? sign s = some rest ↔ s = sign :: rest := by
  cases s with
  | nil => simp [readSign?]
  | cons c s =>
    simp only [readSign?]
    split <;> simp_all

theorem Takes.sign {sign : Char} (hsign : sign ≠ ' ') (rest : List Char) :
    Takes (sign :: rest) [sign] rest :=
  ⟨[sign], rfl, by simp [hsign]⟩

theorem readNumber?_sound {s rest : List Char} {n : Nat} (h : readNumber? s = some (n, rest)) :
    ∃ text, IsNumeral text n ∧ Takes s text rest := by
  simp only [readNumber?, Option.bind_eq_bind, Option.bind_eq_some_iff] at h
  obtain ⟨n', hn, h⟩ := h
  split at h
  · rename_i hle
    obtain ⟨rfl, rfl⟩ := Prod.mk.inj (Option.some.inj h)
    refine ⟨_, ⟨hn, hle⟩, ?_⟩
    simpa using ((Takes.skipSpaces s).trans (Takes.takeWhile (by decide) s)).trans
      (Takes.skipSpaces _)
  · cases h

theorem readName?_sound {s name rest : List Char} (h : readName? s = some (name, rest)) :
    IsName name ∧ Takes s name rest := by
  simp only [readName?] at h
  split at h
  · cases h
  · rename_i hne
    obtain ⟨rfl, rfl⟩ := Prod.mk.inj (Option.some.inj h)
    refine ⟨⟨by simpa using hne, fun c hc => List.mem_takeWhile_imp hc⟩, ?_⟩
    simpa using ((Takes.skipSpaces s).trans (Takes.takeWhile (by decide) s)).trans
      (Takes.skipSpaces _)

theorem readAll?_sound {field : Field} {sign : Char} (hsign : sign ≠ ' ')
    (hall : Span.IsText field .all [sign]) {s rest : List Char} {span : Span}
    (h : readAll? sign s = some (span, rest)) :
    ∃ text, span.IsText field text ∧ Takes s text rest := by
  simp only [readAll?, Option.map_eq_some_iff, Prod.mk.injEq] at h
  obtain ⟨_, hs, rfl, rfl⟩ := h
  rw [readSign?_eq_some.1 hs]
  exact ⟨[sign], hall, Takes.sign hsign _⟩

theorem readRange?_sound {field : Field} {s rest : List Char} {span : Span}
    (h : readRange? s = some (span, rest)) :
    ∃ text, span.IsText field text ∧ Takes s text rest := by
  simp only [readRange?, Option.bind_eq_bind, Option.bind_eq_some_iff] at h
  obtain ⟨⟨first, mid⟩, hfirst, mid', hsign, ⟨last, rest'⟩, hlast, h⟩ := h
  obtain ⟨rfl, rfl⟩ := Prod.mk.inj (Option.some.inj h)
  obtain ⟨text, htext, htakes⟩ := readNumber?_sound hfirst
  obtain ⟨text', htext', htakes'⟩ := readNumber?_sound hlast
  obtain rfl := readSign?_eq_some.1 hsign
  refine ⟨_, .range htext htext', htakes.trans ?_⟩
  exact (Takes.sign (by decide) mid').trans htakes'

theorem readPoint?_sound {field : Field} {s rest : List Char} {span : Span}
    (h : readPoint? s = some (span, rest)) :
    ∃ text, span.IsText field text ∧ Takes s text rest := by
  simp only [readPoint?, Option.bind_eq_bind, Option.bind_eq_some_iff] at h
  obtain ⟨⟨n, rest'⟩, hn, h⟩ := h
  obtain ⟨rfl, rfl⟩ := Prod.mk.inj (Option.some.inj h)
  obtain ⟨text, htext, htakes⟩ := readNumber?_sound hn
  exact ⟨text, .point htext, htakes⟩

theorem readNamedRange?_sound {field : Field} {s rest : List Char} {span : Span}
    (h : readNamedRange? s = some (span, rest)) :
    ∃ text, span.IsText field text ∧ Takes s text rest := by
  simp only [readNamedRange?, Option.bind_eq_bind, Option.bind_eq_some_iff] at h
  obtain ⟨⟨first, mid⟩, hfirst, mid', hsign, ⟨last, rest'⟩, hlast, h⟩ := h
  obtain ⟨rfl, rfl⟩ := Prod.mk.inj (Option.some.inj h)
  obtain ⟨htext, htakes⟩ := readName?_sound hfirst
  obtain ⟨htext', htakes'⟩ := readName?_sound hlast
  obtain rfl := readSign?_eq_some.1 hsign
  refine ⟨_, .namedRange htext htext', htakes.trans ?_⟩
  exact (Takes.sign (by decide) mid').trans htakes'

theorem readSpan?_sound {field : Field} {s rest : List Char} {span : Span}
    (h : readSpan? field s = some (span, rest)) :
    ∃ text, span.IsText field text ∧ Takes s text rest := by
  simp only [readSpan?, Option.orElse_eq_orElse, Option.orElse_eq_or, Option.or_eq_some_iff] at h
  rcases h with h | ⟨-, h | ⟨-, h | ⟨-, h | ⟨-, h⟩⟩⟩⟩
  · split at h
    · rename_i hany
      exact readAll?_sound (by decide) (.anyDay hany) h
    · cases h
  · exact readAll?_sound (by decide) .star h
  · exact readRange?_sound h
  · exact readPoint?_sound h
  · exact readNamedRange?_sound h

theorem readItem?_sound {field : Field} {s rest : List Char} {item : Item}
    (h : readItem? field s = some (item, rest)) :
    ∃ text, item.IsText field text ∧ Takes s text rest := by
  simp only [readItem?, Option.orElse_eq_orElse, Option.orElse_eq_or, Option.or_eq_some_iff] at h
  rcases h with h | ⟨-, h | ⟨-, h⟩⟩
  · simp only [readStepped?, Option.bind_eq_bind, Option.bind_eq_some_iff] at h
    obtain ⟨⟨span, mid⟩, hspan, mid', hsign, ⟨step, rest'⟩, hstep, h⟩ := h
    obtain ⟨rfl, rfl⟩ := Prod.mk.inj (Option.some.inj h)
    obtain ⟨text, htext, htakes⟩ := readSpan?_sound hspan
    obtain ⟨text', htext', htakes'⟩ := readNumber?_sound hstep
    obtain rfl := readSign?_eq_some.1 hsign
    refine ⟨_, .stepped htext htext', htakes.trans ?_⟩
    exact (Takes.sign (by decide) mid').trans htakes'
  · simp only [Option.map_eq_some_iff, Prod.mk.injEq] at h
    obtain ⟨⟨span, rest'⟩, hspan, rfl, rfl⟩ := h
    obtain ⟨text, htext, htakes⟩ := readSpan?_sound hspan
    exact ⟨text, .span htext, htakes⟩
  · simp only [Option.map_eq_some_iff, Prod.mk.injEq] at h
    obtain ⟨⟨name, rest'⟩, hname, rfl, rfl⟩ := h
    obtain ⟨htext, htakes⟩ := readName?_sound hname
    exact ⟨name, .named htext, htakes⟩

/-- Every item after the first one stands behind a comma. -/
theorem readMoreItems_sound {field : Field} {fuel : Nat} {s rest : List Char} {items : List Item}
    (h : readMoreItems field fuel s = (items, rest)) :
    ∃ texts, List.Forall₂ (Item.IsText field) items texts ∧
      Takes s (texts.flatMap (',' :: ·)) rest := by
  have hnone (s : List Char) : Takes s (([] : List (List Char)).flatMap (',' :: ·)) s :=
    ⟨[], rfl, rfl⟩
  induction fuel generalizing s items with
  | zero =>
    cases h
    exact ⟨[], .nil, hnone _⟩
  | succ fuel ih =>
    rw [readMoreItems] at h
    split at h
    · cases h
      exact ⟨[], .nil, hnone _⟩
    · rename_i item mid hitem
      obtain ⟨s', hsign, hitem⟩ := Option.bind_eq_some_iff.1 hitem
      obtain ⟨text, htext, htakes⟩ := readItem?_sound hitem
      cases hmore : readMoreItems field fuel mid with
      | mk more rest' =>
        simp only [hmore] at h
        cases h
        obtain ⟨texts, htexts, htakes'⟩ := ih hmore
        refine ⟨text :: texts, .cons htext htexts, ?_⟩
        rw [readSign?_eq_some.1 hsign]
        exact ((Takes.sign (by decide) s').trans htakes).trans htakes'

/-- A field that was read stands in front of the rest, spaces aside. -/
theorem readField?_sound {field : Field} {s rest : List Char} {numbers : Numbers}
    (h : readField? field s = some (numbers, rest)) :
    ∃ text, field.Reads text numbers ∧ Takes s text rest := by
  simp only [readField?, Option.bind_eq_bind, Option.bind_eq_some_iff] at h
  obtain ⟨⟨item, mid⟩, hitem, numbers', hnumbers, h⟩ := h
  obtain ⟨text, htext, htakes⟩ := readItem?_sound hitem
  obtain ⟨texts, htexts, htakes'⟩ :=
    readMoreItems_sound (rfl : readMoreItems field mid.length mid = _)
  obtain ⟨rfl, rfl⟩ := Prod.mk.inj (Option.some.inj h)
  refine ⟨[','].intercalate (text :: texts), ⟨_, ?_, hnumbers⟩, ?_⟩
  · exact Field.lists_intercalate (by simp) (.cons htext htexts)
  · rw [intercalate_comma]
    simpa using (((Takes.skipSpaces s).trans htakes).trans htakes').trans (Takes.skipSpaces _)

end CrontabRenderer.Schedule
