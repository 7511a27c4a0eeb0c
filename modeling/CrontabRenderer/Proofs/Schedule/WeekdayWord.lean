import CrontabRenderer.Proofs.Results
import CrontabRenderer.Proofs.Schedule.WeekdayItem
import CrontabRenderer.Schedule.Weekday

/-!
# Words for days of the week

Renumbering a word keeps what it says. A word is well-formed by the numbers of crontabs if and only
if the renumbered word reads as a field of a timetable (`isWord_iff_exists_reads`). It allows the
same days, and those that a step counts on to (`contain_iff_allows_or_countsOn`).
-/
namespace CrontabRenderer.Schedule.Weekday

theorem splitOnce_of_notMem {mark : Char} {s : List Char} (h : mark ∉ s) :
    Text.splitOnce mark s = none := by
  have hdrop : s.dropWhile (· != mark) = [] :=
    List.dropWhile_eq_nil_iff.2 fun c hc => bne_iff_ne.2 fun hcm => h (hcm ▸ hc)
  rw [Text.splitOnce, hdrop]

theorem splitOnce_append {mark : Char} {s : List Char} (h : mark ∉ s) (t : List Char) :
    Text.splitOnce mark (s ++ mark :: t) = some (s, t) := by
  obtain ⟨htake, hdrop⟩ := takeWhile_append (p := (· != mark)) (s := mark :: t)
    (fun c hc => bne_iff_ne.2 fun hcm => h (hcm ▸ hc)) (by simp)
  simp [Text.splitOnce, htake, hdrop]

/-- The items for the part of an item in front of its step. -/
def renumberWritten (item written : List Char) (step : Option (List Char)) :
    Except Fault (List (List Char)) :=
  match Text.splitOnce '-' written with
  | some (first, last) => do
    match ← number? first, ← number? last with
    | some first, some last => renumberRange item written first last step
    | _, _ => return [withStep step written]
  | none => do
    match ← number? written with
    | some day => return [withStep step (Decimal.digits (day % 7 + 1))]
    | none => return [withStep step written]

theorem renumberItem_withStep {written : List Char} (hslash : '/' ∉ written)
    (step : Option (List Char)) :
    renumberItem (withStep step written) =
      renumberWritten (withStep step written) written step := by
  cases step with
  | none =>
    have hsplit : Text.splitOnce '/' (withStep none written) = none := splitOnce_of_notMem hslash
    rw [renumberItem, hsplit]
    rfl
  | some step =>
    have hsplit : Text.splitOnce '/' (withStep (some step) written) = some (written, step) :=
      splitOnce_append hslash step
    rw [renumberItem, hsplit]
    rfl

theorem exists_withStep (item : List Char) :
    ∃ step written, '/' ∉ written ∧ item = withStep step written := by
  by_cases h : '/' ∈ item
  · obtain ⟨written, step, hitem, hslash⟩ := List.eq_append_cons_of_mem h
    exact ⟨some step, written, hslash, hitem⟩
  · exact ⟨none, item, h, rfl⟩

/-! ## Numbers and names -/

theorem isNumeral_digits {n : Nat} (h : n < 10) : IsNumeral (Decimal.digits n) n :=
  ⟨Decimal.ofDigits?_digits n, by simp only [largestNumber]; omega⟩

theorem number?_eq_some_iff {text : List Char} {day : Nat} :
    number? text = .ok (some day) ↔ IsNumeral text day ∧ day ≤ 7 := by
  unfold number?
  cases h : Decimal.ofDigits? 10 text with
  | none => simp [IsNumeral, h]
  | some n =>
    by_cases hn : n ≤ 7
    · simp only [hn, if_true, Except.ok.injEq, Option.some_inj, IsNumeral, h, largestNumber]
      omega
    · simp only [hn, if_false, reduceCtorEq, false_iff, IsNumeral, h, Option.some_inj]
      omega

theorem number?_of_isName {name : List Char} (h : IsName name) : number? name = .ok none := by
  have hnone : Decimal.ofDigits? 10 name = none := by
    rw [Option.eq_none_iff_forall_not_mem]
    intro n hn
    obtain ⟨c, rest, rfl⟩ := List.exists_cons_of_ne_nil h.1
    have hdigit := Decimal.isDigit_of_ofDigits? hn c List.mem_cons_self
    rw [not_isDigit_of_isAlpha (h.2 c List.mem_cons_self)] at hdigit
    cases hdigit
  rw [number?, hnone]

/-! ## Renumbered texts -/

/-- A range runs forwards. It is written with digits and dashes, and a step behind each part. -/
theorem renumberRange_eq_ok {item written : List Char} {first last : Nat}
    {step : Option (List Char)} {pieces : List (List Char)}
    (h : renumberRange item written first last step = .ok pieces) :
    first ≤ last ∧ ∃ texts ≠ [], pieces = texts.map (withStep step) ∧
      ∀ text ∈ texts, ∀ c ∈ text, c.isDigit = true ∨ c = '-' := by
  have hdigits (n : Nat) : ∀ c ∈ Decimal.digits n, c.isDigit = true ∨ c = '-' :=
    fun c hc => .inl (Nat.isDigit_of_mem_toDigits (by decide) (by decide) hc)
  have hrange (first last : Nat) : ∀ c ∈ range first last, c.isDigit = true ∨ c = '-' := by
    intro c hc
    rcases List.mem_append.1 hc with hc | hc
    · exact hdigits first c hc
    · rcases List.mem_cons.1 hc with rfl | hc
      · exact .inr rfl
      · exact hdigits last c hc
  unfold renumberRange at h
  split at h
  · cases h
  rename_i hle
  refine ⟨Nat.le_of_not_lt hle, ?_⟩
  split at h
  · obtain rfl := Except.ok.inj h
    exact ⟨[['1']], by simp, rfl, by simp⟩
  split at h
  · obtain rfl := Except.ok.inj h
    exact ⟨[range (first + 1) (last + 1)], by simp, rfl, by simpa using hrange _ _⟩
  split at h
  · obtain rfl := Except.ok.inj h
    exact ⟨[range 1 7], by simp, rfl, by simpa using hrange _ _⟩
  split at h
  · obtain rfl := Except.ok.inj h
    refine ⟨[range (first + 1) 7, ['1']], by simp, rfl, ?_⟩
    exact List.forall_mem_cons.2 ⟨hrange _ _, by simp⟩
  · cases h

/-- What is written in front of the step is kept, or it is a well-formed number or range and is
written with other digits. -/
theorem renumberWritten_eq_ok {item written : List Char} {step : Option (List Char)}
    {pieces : List (List Char)} (h : renumberWritten item written step = .ok pieces) :
    pieces = [withStep step written] ∨
      (∃ run : Span, run.IsText .dayOfWeek written ∧ (Item.span run).IsProper .dayOfWeek) ∧
      ∃ texts ≠ [], pieces = texts.map (withStep step) ∧
        ∀ text ∈ texts, ∀ c ∈ text, c.isDigit = true ∨ c = '-' := by
  by_cases hdash : '-' ∈ written
  · obtain ⟨first, last, rfl, hfirst⟩ := List.eq_append_cons_of_mem hdash
    rw [renumberWritten, splitOnce_append hfirst] at h
    obtain ⟨m, hm, h⟩ := bind_eq_ok_iff.1 h
    obtain ⟨n, hn, h⟩ := bind_eq_ok_iff.1 h
    cases m with
    | none => exact .inl (Except.ok.inj h).symm
    | some m =>
      cases n with
      | none => exact .inl (Except.ok.inj h).symm
      | some n =>
        obtain ⟨hle, htexts⟩ := renumberRange_eq_ok h
        obtain ⟨hm, -⟩ := number?_eq_some_iff.1 hm
        obtain ⟨hn, hlast⟩ := number?_eq_some_iff.1 hn
        exact .inr ⟨⟨_, .range hm hn, Item.isProper_span_iff.2 ⟨m, n, rfl, hle, hlast⟩⟩, htexts⟩
  · rw [renumberWritten, splitOnce_of_notMem hdash] at h
    obtain ⟨n, hn, h⟩ := bind_eq_ok_iff.1 h
    cases n with
    | none => exact .inl (Except.ok.inj h).symm
    | some n =>
      obtain ⟨hn, hlast⟩ := number?_eq_some_iff.1 hn
      refine .inr ⟨⟨_, .point hn, Item.isProper_span_iff.2 ⟨n, n, rfl, le_rfl, hlast⟩⟩,
        [Decimal.digits (n % 7 + 1)], by simp, (Except.ok.inj h).symm, ?_⟩
      simp only [List.mem_singleton, forall_eq]
      exact fun c hc => .inl (Nat.isDigit_of_mem_toDigits (by decide) (by decide) hc)

/-- Renumbering writes no character but digits and dashes that is not there. -/
theorem mem_of_mem_renumberItem {item : List Char} {pieces : List (List Char)}
    (h : renumberItem item = .ok pieces) {piece : List Char} (hpiece : piece ∈ pieces) {c : Char}
    (hc : c ∈ piece) : c ∈ item ∨ c.isDigit = true ∨ c = '-' := by
  obtain ⟨step, written, hslash, rfl⟩ := exists_withStep item
  rw [renumberItem_withStep hslash] at h
  rcases renumberWritten_eq_ok h with rfl | ⟨-, texts, -, rfl, htexts⟩
  · rw [List.mem_singleton.1 hpiece] at hc
    exact .inl hc
  · obtain ⟨text, htext, rfl⟩ := List.mem_map.1 hpiece
    cases step with
    | none => exact .inr (htexts text htext c hc)
    | some step =>
      rcases List.mem_append.1 hc with hc | hc
      · exact .inr (htexts text htext c hc)
      · exact .inl (List.mem_append_right _ hc)

/-! ## Well-formed items -/

/-- Behind a text without a slash, only a number in the range of the days can be a step. -/
theorem isStep_of_isText {item : Item} {p : Progression} {step : Option (List Char)}
    {text : List Char} (hslash : '/' ∉ text) (h : item.IsText .dayOfWeek (withStep step text))
    (hp : Field.dayOfWeek.itemNumbers? item = some p) :
    ∀ s ∈ step, ∃ n, IsNumeral s n ∧ 1 ≤ n ∧ n ≤ 7 := by
  rintro s ⟨⟩
  have hwritten : '/' ∈ withStep (some s) text := by simp [withStep]
  generalize hwhole : withStep (some s) text = whole at h hwritten
  cases h with
  | span h => exact absurd hwritten h.slash_notMem
  | named h => exact absurd hwritten (h.notMem (by decide))
  | @stepped run n text' s' h hstep =>
    have hsplit := splitOnce_append h.slash_notMem s'
    rw [← hwhole, withStep, splitOnce_append hslash, Option.some_inj, Prod.mk.injEq] at hsplit
    obtain ⟨-, rfl⟩ := hsplit
    exact ⟨n, hstep, (exists_itemNumbers?_stepped_iff.1 ⟨p, hp⟩).1⟩

/-- A step goes behind any well-formed run. -/
theorem exists_item_withStep {run : Span} {text : List Char} {step : Option (List Char)}
    (h : run.IsText .dayOfWeek text) (hproper : (Item.span run).IsProper .dayOfWeek)
    (hstep : ∀ s ∈ step, ∃ n, IsNumeral s n ∧ 1 ≤ n ∧ n ≤ 7) :
    ∃ item : Item, item.IsText .dayOfWeek (withStep step text) ∧ item.IsProper .dayOfWeek := by
  cases step with
  | none => exact ⟨.span run, .span h, hproper⟩
  | some s =>
    obtain ⟨n, hn, hrange⟩ := hstep s rfl
    exact ⟨.stepped run n, .stepped h hn, Item.isProper_stepped_iff.2 ⟨hrange, hproper⟩⟩

/-- If the renumbered items read as items of a timetable, the item is well-formed. -/
theorem exists_isProper_of_renumberItem {text : List Char} {pieces : List (List Char)}
    (h : renumberItem text = .ok pieces) {items : List Item}
    (hitems : List.Forall₂ (Item.IsText .dayOfWeek) items pieces)
    (hnumbers : ∀ item ∈ items, ∃ p, Field.dayOfWeek.itemNumbers? item = some p) :
    ∃ item : Item, item.IsText .dayOfWeek text ∧ item.IsProper .dayOfWeek := by
  obtain ⟨step, written, hslash, rfl⟩ := exists_withStep text
  rw [renumberItem_withStep hslash] at h
  rcases renumberWritten_eq_ok h with rfl | ⟨⟨run, hrun, hproper⟩, texts, hne, rfl, htexts⟩
  · cases hitems with
    | cons hitem _ =>
      obtain ⟨p, hp⟩ := hnumbers _ List.mem_cons_self
      exact ⟨_, hitem, Item.isProper_of_itemNumbers? hp⟩
  · obtain ⟨first, texts, rfl⟩ := List.exists_cons_of_ne_nil hne
    cases hitems with
    | cons hitem _ =>
      obtain ⟨p, hp⟩ := hnumbers _ List.mem_cons_self
      have hfirst : '/' ∉ first := by
        intro hmem
        rcases htexts first List.mem_cons_self '/' hmem with h | h <;> revert h <;> decide
      exact exists_item_withStep hrun hproper (isStep_of_isText hfirst hitem hp)

theorem exists_runs_of_renumberRange {item written : List Char} {first last : Nat}
    {step : Option (List Char)} {pieces : List (List Char)} (hle : first ≤ last) (hlast : last ≤ 7)
    (h : renumberRange item written first last step = .ok pieces) :
    ∃ runs texts, (Span.range first last).renumber step.isSome = some runs ∧
      List.Forall₂ (Span.IsText .dayOfWeek) runs texts ∧ pieces = texts.map (withStep step) := by
  have hrange {m n : Nat} (hm : m < 10) (hn : n < 10) :
      (Span.range m n).IsText .dayOfWeek (range m n) :=
    .range (isNumeral_digits hm) (isNumeral_digits hn)
  have hsunday : (Span.point 1).IsText .dayOfWeek ['1'] := .point ⟨rfl, by decide⟩
  unfold renumberRange at h
  rw [if_neg (by omega)] at h
  split at h
  · rename_i hfirst
    obtain rfl := Except.ok.inj h
    exact ⟨[.point 1], [['1']], by simp [Span.renumber, hfirst], .cons hsunday .nil, rfl⟩
  rename_i hfirst
  split at h
  · rename_i hlt
    obtain rfl := Except.ok.inj h
    exact ⟨[.range (first + 1) (last + 1)], [range (first + 1) (last + 1)],
      by simp [Span.renumber, hfirst, hlt], .cons (hrange (by omega) (by omega)) .nil, rfl⟩
  rename_i hlt
  split at h
  · rename_i hzero
    obtain rfl := Except.ok.inj h
    exact ⟨[.range 1 7], [range 1 7], by simp [Span.renumber, hlt, hzero],
      .cons (hrange (by decide) (by decide)) .nil, rfl⟩
  rename_i hzero
  split at h
  · obtain rfl := Except.ok.inj h
    exact ⟨[.range (first + 1) 7, .point 1], [range (first + 1) 7, ['1']],
      by simp [Span.renumber, hfirst, hlt, hzero],
      .cons (hrange (by omega) (by decide)) (.cons hsunday .nil), rfl⟩
  · cases h

/-- What is written in front of the step of a well-formed item is written anew as the runs that
stand for it. -/
theorem exists_runs_of_renumberWritten {run : Span} {item written : List Char}
    {step : Option (List Char)} {pieces : List (List Char)} (h : run.IsText .dayOfWeek written)
    (hproper : (Item.span run).IsProper .dayOfWeek)
    (hpieces : renumberWritten item written step = .ok pieces) :
    ∃ runs texts, run.renumber step.isSome = some runs ∧
      List.Forall₂ (Span.IsText .dayOfWeek) runs texts ∧ pieces = texts.map (withStep step) := by
  obtain ⟨first, last, hbounds, hle, hlast⟩ := Item.isProper_span_iff.1 hproper
  cases h with
  | star =>
    obtain rfl := Except.ok.inj hpieces
    exact ⟨[.all], [['*']], rfl, .cons .star .nil, rfl⟩
  | anyDay hany =>
    obtain rfl := Except.ok.inj hpieces
    exact ⟨[.all], [['?']], rfl, .cons (.anyDay hany) .nil, rfl⟩
  | @point _ n h =>
    obtain ⟨rfl, rfl⟩ := Prod.mk.inj (Option.some.inj hbounds)
    rw [renumberWritten, splitOnce_of_notMem (h.notMem (by decide)),
      number?_eq_some_iff.2 ⟨h, hlast⟩] at hpieces
    obtain rfl := Except.ok.inj hpieces
    exact ⟨[.point (n % 7 + 1)], [Decimal.digits (n % 7 + 1)], rfl,
      .cons (.point (isNumeral_digits (by omega))) .nil, rfl⟩
  | @range text text' m n hm hn =>
    obtain ⟨rfl, rfl⟩ := Prod.mk.inj (Option.some.inj hbounds)
    rw [renumberWritten, splitOnce_append (hm.notMem (by decide))] at hpieces
    simp only [number?_eq_some_iff.2 ⟨hm, hle.trans hlast⟩, number?_eq_some_iff.2 ⟨hn, hlast⟩]
      at hpieces
    exact exists_runs_of_renumberRange hle hlast hpieces
  | @namedRange from' to' hfrom hto =>
    rw [renumberWritten, splitOnce_append (hfrom.notMem (by decide))] at hpieces
    simp only [number?_of_isName hfrom, number?_of_isName hto] at hpieces
    obtain rfl := Except.ok.inj hpieces
    exact ⟨[.namedRange from' to'], [from' ++ '-' :: to'], rfl, .cons (.namedRange hfrom hto) .nil,
      rfl⟩

/-- A well-formed item that is renumbered is written as the items that stand for it. -/
theorem exists_renumber_of_renumberItem {item : Item} {text : List Char}
    {pieces : List (List Char)} (h : item.IsText .dayOfWeek text)
    (hproper : item.IsProper .dayOfWeek) (hpieces : renumberItem text = .ok pieces) :
    ∃ items, item.renumber = some items ∧ List.Forall₂ (Item.IsText .dayOfWeek) items pieces := by
  cases h with
  | @span run _ h =>
    have hwritten := renumberItem_withStep h.slash_notMem none
    rw [withStep, hpieces] at hwritten
    obtain ⟨runs, texts, hruns, htexts, rfl⟩ :=
      exists_runs_of_renumberWritten h hproper hwritten.symm
    refine ⟨runs.map .span, Option.map_eq_some_iff.2 ⟨runs, hruns, rfl⟩, ?_⟩
    rw [List.forall₂_map_left_iff, List.forall₂_map_right_iff]
    exact htexts.imp fun run text h => .span h
  | @stepped run n text' s h hstep =>
    have hwritten := renumberItem_withStep h.slash_notMem (some s)
    rw [withStep, hpieces] at hwritten
    obtain ⟨runs, texts, hruns, htexts, rfl⟩ :=
      exists_runs_of_renumberWritten h (Item.isProper_stepped_iff.1 hproper).2 hwritten.symm
    refine ⟨runs.map (.stepped · n), Option.map_eq_some_iff.2 ⟨runs, hruns, rfl⟩, ?_⟩
    rw [List.forall₂_map_left_iff, List.forall₂_map_right_iff]
    exact htexts.imp fun run text h => .stepped h hstep
  | named h =>
    have hwritten := renumberItem_withStep (h.notMem (by decide)) none
    rw [withStep, hpieces, renumberWritten, splitOnce_of_notMem (h.notMem (by decide)),
      number?_of_isName h] at hwritten
    obtain rfl := Except.ok.inj hwritten
    exact ⟨[.named text], rfl, .cons (.named h) .nil⟩

/-! ## Words -/

theorem renumber_eq_ok_iff {word renumbered : List Char} :
    renumber word = .ok renumbered ↔ ∃ groups,
      List.Forall₂ (fun text pieces => renumberItem text = .ok pieces)
        (Text.cutAt (· = ',') word) groups ∧ renumbered = [','].intercalate groups.flatten := by
  rw [renumber, bind_eq_ok_iff]
  simp only [mapM_eq_ok_iff]
  constructor
  · rintro ⟨groups, hgroups, h⟩
    exact ⟨groups, hgroups, (Except.ok.inj h).symm⟩
  · rintro ⟨groups, hgroups, rfl⟩
    exact ⟨groups, hgroups, rfl⟩

/-- A renumbered word has no character that is not in the word but digits, dashes and commas. -/
theorem mem_of_mem_renumber {word renumbered : List Char} (h : renumber word = .ok renumbered)
    {c : Char} (hc : c ∈ renumbered) : c ∈ word ∨ c.isDigit = true ∨ c = '-' ∨ c = ',' := by
  obtain ⟨groups, hgroups, rfl⟩ := renumber_eq_ok_iff.1 h
  rcases Text.mem_intercalate hc with hc | ⟨piece, hpiece, hc⟩
  · exact .inr (.inr (.inr (List.mem_singleton.1 hc)))
  · obtain ⟨pieces, hpieces, hpiece⟩ := List.mem_flatten.1 hpiece
    obtain ⟨text, htext, hrenumber⟩ := exists_left_of_forall₂ hgroups hpieces
    rcases mem_of_mem_renumberItem hrenumber hpiece hc with hc | hc | hc
    · exact .inl (Text.mem_of_mem_cutAt htext hc)
    · exact .inr (.inl hc)
    · exact .inr (.inr (.inl hc))

theorem space_notMem_renumber {word renumbered : List Char} (h : renumber word = .ok renumbered)
    (hword : ' ' ∉ word) : ' ' ∉ renumbered := by
  intro hc
  rcases mem_of_mem_renumber h hc with hc | hc | hc | hc
  · exact hword hc
  · revert hc
    decide
  · cases hc
  · cases hc

theorem ne_nil_of_renumberItem {item : List Char} {pieces : List (List Char)}
    (h : renumberItem item = .ok pieces) : pieces ≠ [] := by
  obtain ⟨step, written, hslash, rfl⟩ := exists_withStep item
  rw [renumberItem_withStep hslash] at h
  rcases renumberWritten_eq_ok h with rfl | ⟨-, texts, hne, rfl, -⟩
  · simp
  · simpa using hne

/-- A renumbered word is cut at its commas into the renumbered items. -/
theorem cutAt_renumber {word : List Char} {groups : List (List (List Char))}
    (h : List.Forall₂ (fun text pieces => renumberItem text = .ok pieces)
      (Text.cutAt (· = ',') word) groups) :
    Text.cutAt (· = ',') ([','].intercalate groups.flatten) = groups.flatten := by
  have hcomma : ∀ piece ∈ groups.flatten, ',' ∉ piece := by
    intro piece hpiece hc
    obtain ⟨pieces, hpieces, hpiece⟩ := List.mem_flatten.1 hpiece
    obtain ⟨text, htext, hrenumber⟩ := exists_left_of_forall₂ h hpieces
    rcases mem_of_mem_renumberItem hrenumber hpiece hc with hc | hc | hc
    · simpa using Text.not_separates_of_mem_cutAt htext ',' hc
    · revert hc
      decide
    · revert hc
      decide
  have hne : groups.flatten ≠ [] := by
    cases groups with
    | nil =>
      rw [Text.cutAt_eq_splitOn] at h
      exact absurd (List.forall₂_nil_right_iff.1 h) (List.splitOnP_ne_nil (· == ',') word)
    | cons pieces groups =>
      obtain ⟨text, texts, htext, -, -⟩ := List.forall₂_cons_right_iff.1 h
      simp [ne_nil_of_renumberItem htext]
  rw [Text.cutAt_eq_splitOn, List.splitOn_intercalate ',' hcomma hne]

/-- If the renumbered items read as items of a timetable, all the items are well-formed. -/
theorem exists_isProper_of_renumbered {texts : List (List Char)} {groups : List (List (List Char))}
    (hgroups : List.Forall₂ (fun text pieces => renumberItem text = .ok pieces) texts groups)
    {renumbered : List Item}
    (hitems : List.Forall₂ (Item.IsText .dayOfWeek) renumbered groups.flatten)
    (hnumbers : ∀ item ∈ renumbered, ∃ p, Field.dayOfWeek.itemNumbers? item = some p) :
    ∃ items, List.Forall₂ (Item.IsText .dayOfWeek) items texts ∧
      ∀ item ∈ items, item.IsProper .dayOfWeek := by
  induction hgroups generalizing renumbered with
  | nil => exact ⟨[], .nil, by simp⟩
  | @cons text pieces texts groups hpieces hgroups ih =>
    rw [List.flatten_cons] at hitems
    obtain ⟨item, htext, hproper⟩ := exists_isProper_of_renumberItem hpieces
      (List.forall₂_take_append renumbered pieces groups.flatten hitems)
      fun item hitem => hnumbers item (List.mem_of_mem_take hitem)
    obtain ⟨rest, hrest, hproperRest⟩ := ih
      (List.forall₂_drop_append renumbered pieces groups.flatten hitems)
      fun item hitem => hnumbers item (List.mem_of_mem_drop hitem)
    exact ⟨item :: rest, .cons htext hrest, List.forall_mem_cons.2 ⟨hproper, hproperRest⟩⟩

/-- The renumbered items of well-formed items have numbers. They are those of the same days, unless
a step counts on. -/
theorem exists_numbers_of_isProper {texts : List (List Char)} {groups : List (List (List Char))}
    (hgroups : List.Forall₂ (fun text pieces => renumberItem text = .ok pieces) texts groups)
    {items : List Item} (hitems : List.Forall₂ (Item.IsText .dayOfWeek) items texts)
    (hproper : ∀ item ∈ items, item.IsProper .dayOfWeek) :
    ∃ renumbered numbers, List.Forall₂ (Item.IsText .dayOfWeek) renumbered groups.flatten ∧
      Field.dayOfWeek.numbers? renumbered = some numbers ∧
      ((∀ item ∈ items, ∀ n step, item ≠ .stepped (.point n) step) →
        ∀ day < 7, numbers.contain (day + 1) = true ↔
          ∃ item ∈ items, item.AllowsDay day ∨ item.CountsOn day) := by
  induction hgroups generalizing items with
  | nil =>
    cases hitems
    exact ⟨[], [], .nil, rfl, by simp [Numbers.contain]⟩
  | cons hpieces hgroups ih =>
    cases hitems with
    | @cons item _ items _ hitem hrest =>
      obtain ⟨hproper, hproperRest⟩ := List.forall_mem_cons.1 hproper
      obtain ⟨first, hfirst, hfirstTexts⟩ := exists_renumber_of_renumberItem hitem hproper hpieces
      obtain ⟨numbers, hnumbers, hdays⟩ := hproper.renumber hfirst
      obtain ⟨more, moreNumbers, hmoreTexts, hmoreNumbers, hmoreDays⟩ := ih hrest hproperRest
      refine ⟨first ++ more, numbers ++ moreNumbers, List.rel_append hfirstTexts hmoreTexts, ?_,
        fun hpoints day hday => ?_⟩
      · rw [Field.numbers?_eq_some_iff] at hnumbers hmoreNumbers ⊢
        exact List.rel_append hnumbers hmoreNumbers
      · obtain ⟨hpoint, hpoints⟩ := List.forall_mem_cons.1 hpoints
        have hcontain : (numbers ++ moreNumbers).contain (day + 1) = true ↔
            numbers.contain (day + 1) = true ∨ moreNumbers.contain (day + 1) = true := by
          simp [Numbers.contain]
        rw [hcontain, hdays hpoint day hday, hmoreDays hpoints day hday]
        simp

/-- A word is well-formed in a crontab if and only if it reads as a field when it is renumbered. -/
theorem isWord_iff_exists_reads {word renumbered : List Char}
    (h : renumber word = .ok renumbered) :
    Field.dayOfWeek.IsWord word ↔ ∃ numbers, Field.dayOfWeek.Reads renumbered numbers := by
  obtain ⟨groups, hgroups, rfl⟩ := renumber_eq_ok_iff.1 h
  simp only [Field.Reads, Field.Lists, cutAt_renumber hgroups]
  constructor
  · rintro ⟨items, hitems, hproper⟩
    obtain ⟨renumbered, numbers, htexts, hnumbers, -⟩ :=
      exists_numbers_of_isProper hgroups hitems hproper
    exact ⟨numbers, renumbered, htexts, hnumbers⟩
  · rintro ⟨numbers, renumbered, htexts, hnumbers⟩
    exact exists_isProper_of_renumbered hgroups htexts
      (Field.exists_numbers?_iff.1 ⟨numbers, hnumbers⟩)

/-- A word without a slash has no item with a step. -/
theorem not_stepped {field : Field} {word : List Char} (hslash : '/' ∉ word) {items : List Item}
    (hitems : field.Lists word items) : ∀ item ∈ items, ∀ run step, item ≠ .stepped run step := by
  rintro _ hmem run step rfl
  obtain ⟨text, htext, hstepped⟩ := exists_right_of_forall₂ hitems hmem
  have hmemSlash : '/' ∈ text := by
    cases hstepped
    simp
  exact hslash (Text.mem_of_mem_cutAt htext hmemSlash)

/-- The renumbered word allows the days that the word allows, and those that a step counts on to. -/
theorem contain_iff_allows_or_countsOn {word renumbered : List Char}
    (h : renumber word = .ok renumbered) {items : List Item}
    (hitems : Field.dayOfWeek.Lists word items)
    (hpoints : ∀ item ∈ items, ∀ n step, item ≠ .stepped (.point n) step) {numbers : Numbers}
    (hreads : Field.dayOfWeek.Reads renumbered numbers) {day : Nat} (hday : day < 7) :
    numbers.contain (day + 1) = true ↔
      AllowsDay word day ∨ ∃ item ∈ items, item.CountsOn day := by
  obtain ⟨items', hitems', hproper⟩ := (isWord_iff_exists_reads h).2 ⟨numbers, hreads⟩
  obtain rfl := hitems.unique hitems'
  obtain ⟨groups, hgroups, rfl⟩ := renumber_eq_ok_iff.1 h
  obtain ⟨renumbered, numbers', htexts, hnumbers, hdays⟩ :=
    exists_numbers_of_isProper hgroups hitems hproper
  have hlists : Field.dayOfWeek.Lists ([','].intercalate groups.flatten) renumbered := by
    rwa [Field.Lists, cutAt_renumber hgroups]
  rw [hreads.unique ⟨renumbered, hlists, hnumbers⟩, hdays hpoints day hday, allowsDay_iff hitems]
  simp only [and_or_left, exists_or]

/-- Without a step, the renumbered word allows the days that the word allows. -/
theorem contain_iff_allows {word renumbered : List Char} (h : renumber word = .ok renumbered)
    (hslash : '/' ∉ word) {numbers : Numbers}
    (hreads : Field.dayOfWeek.Reads renumbered numbers) {day : Nat} (hday : day < 7) :
    numbers.contain (day + 1) = true ↔ AllowsDay word day := by
  obtain ⟨items, hitems, -⟩ := (isWord_iff_exists_reads h).2 ⟨numbers, hreads⟩
  have hsteps := not_stepped hslash hitems
  have hcounts : ¬∃ item ∈ items, item.CountsOn day := by
    rintro ⟨item, hitem, step, hstepped, -⟩
    exact hsteps item hitem _ step hstepped
  rw [contain_iff_allows_or_countsOn h hitems (fun item hitem n => hsteps item hitem (.point n))
    hreads hday, or_iff_left hcounts]

end CrontabRenderer.Schedule.Weekday
