import CrontabRenderer.Proofs.Schedule.WeekdayWord

/-!
# The days of a renumbered word

Renumbering refuses a word if and only if one of its items has a number behind the second Sunday,
runs backwards, or has a step in a range that ends on the second Sunday and begins on neither
(`exists_renumber_eq_error_iff`). What it makes of a well-formed word that has its steps behind
stars and ranges allows the same days, and one kind of days more: of a range from the second Sunday
to itself only the number of Sunday is left, and a step behind a number counts on through the week
(`renumber_days`).
-/
namespace CrontabRenderer.Schedule.Weekday

/-- A step stands behind a star or a range. -/
def StepsThroughRun (item : Item) : Prop := ∀ n step, item ≠ .stepped (.point n) step

def IsPastWeek (token : List Char) : Prop := ∃ n, Decimal.ofDigits? 10 token = some n ∧ 7 < n

/-- What cannot be renumbered as a range, with or without a step behind it. -/
inductive RefusesRange (step : Option (List Char)) (first last : List Char) : Prop
  | first (h : IsPastWeek first)
  | last (h : IsPastWeek last)
  | backwards {m n : Nat} (hm : Decimal.ofDigits? 10 first = some m)
      (hn : Decimal.ofDigits? 10 last = some n) (h : n < m)
  | toSunday {m : Nat} (hm : Decimal.ofDigits? 10 first = some m)
      (hlast : Decimal.ofDigits? 10 last = some 7) (hpos : 0 < m) (hlt : m < 7)
      (hstep : step.isSome = true)

/-- What cannot be renumbered in front of a step, or of none. A range is cut at its first dash. -/
inductive RefusesWritten (step : Option (List Char)) : List Char → Prop
  | number {token : List Char} (h : IsPastWeek token) : RefusesWritten step token
  | range {first last : List Char} (hdash : '-' ∉ first) (h : RefusesRange step first last) :
      RefusesWritten step (first ++ '-' :: last)

/-- An item that cannot be renumbered. Its step stands behind the first slash. -/
inductive Refuses : List Char → Prop
  | written {step : Option (List Char)} {written : List Char} (hslash : '/' ∉ written)
      (h : RefusesWritten step written) : Refuses (withStep step written)

/-! ## Refusals -/

theorem exists_number?_eq_error_iff {token : List Char} :
    (∃ fault, number? token = .error fault) ↔ IsPastWeek token := by
  unfold number? IsPastWeek
  cases Decimal.ofDigits? 10 token with
  | none => simp
  | some n =>
    by_cases hn : n ≤ 7
    · simp [hn]
    · simp [hn, Nat.lt_of_not_le hn]

theorem IsPastWeek.dash_notMem {token : List Char} (h : IsPastWeek token) : '-' ∉ token := by
  intro hdash
  obtain ⟨n, hn, -⟩ := h
  have hdigit := Decimal.isDigit_of_ofDigits? hn '-' hdash
  revert hdigit
  decide

theorem exists_renumberRange_eq_error_iff {item written : List Char} {first last : Nat}
    {step : Option (List Char)} (hfirst : first ≤ 7) (hlast : last ≤ 7) :
    (∃ fault, renumberRange item written first last step = .error fault) ↔
      last < first ∨ 0 < first ∧ first < 7 ∧ last = 7 ∧ step.isSome = true := by
  have haccepted (pieces : List (List Char)) :
      ¬∃ fault, (.ok pieces : Except Fault (List (List Char))) = .error fault := by simp
  unfold renumberRange
  split
  · rename_i hlt
    exact iff_of_true ⟨_, rfl⟩ (.inl hlt)
  rename_i hle
  split
  · exact iff_of_false (haccepted _) (by omega)
  split
  · exact iff_of_false (haccepted _) (by omega)
  split
  · exact iff_of_false (haccepted _) (by omega)
  · cases step with
    | none => exact iff_of_false (haccepted _) (by simp [hle])
    | some step => exact iff_of_true ⟨_, rfl⟩ (.inr ⟨by omega, by omega, by omega, rfl⟩)

theorem refusesWritten_append_iff {step : Option (List Char)} {first last : List Char}
    (hdash : '-' ∉ first) :
    RefusesWritten step (first ++ '-' :: last) ↔ RefusesRange step first last := by
  constructor
  · intro h
    generalize hwritten : first ++ '-' :: last = written at h
    cases h with
    | number h => exact absurd (by simp [← hwritten]) h.dash_notMem
    | range hdash' h =>
      have hsplit := congrArg (Text.splitOnce '-') hwritten
      rw [splitOnce_append hdash, splitOnce_append hdash', Option.some_inj] at hsplit
      obtain ⟨rfl, rfl⟩ := Prod.mk.inj hsplit
      exact h
  · exact .range hdash

theorem refusesWritten_iff_of_notMem {step : Option (List Char)} {token : List Char}
    (hdash : '-' ∉ token) : RefusesWritten step token ↔ IsPastWeek token := by
  constructor
  · intro h
    cases h with
    | number h => exact h
    | range _ h => simp at hdash
  · exact .number

/-- The two ends of a range are read one after the other before they are compared. -/
theorem exists_renumberWritten_append_eq_error_iff {item first last : List Char}
    {step : Option (List Char)} (hdash : '-' ∉ first) :
    (∃ fault, renumberWritten item (first ++ '-' :: last) step = .error fault) ↔
      RefusesRange step first last := by
  have hpast (h : IsPastWeek first ∨ IsPastWeek last) :
      ∃ fault, renumberWritten item (first ++ '-' :: last) step = .error fault := by
    rcases h with h | h
    · obtain ⟨fault, hfault⟩ := exists_number?_eq_error_iff.2 h
      simp only [renumberWritten, splitOnce_append hdash, hfault]
      exact ⟨fault, rfl⟩
    · obtain ⟨fault, hfault⟩ := exists_number?_eq_error_iff.2 h
      simp only [renumberWritten, splitOnce_append hdash, hfault]
      cases number? first with
      | error fault => exact ⟨fault, rfl⟩
      | ok m => exact ⟨fault, rfl⟩
  have hrange {m n : Nat} (hm : Decimal.ofDigits? 10 first = some m)
      (hn : Decimal.ofDigits? 10 last = some n)
      (h : n < m ∨ 0 < m ∧ m < 7 ∧ n = 7 ∧ step.isSome = true) :
      ∃ fault, renumberWritten item (first ++ '-' :: last) step = .error fault := by
    by_cases hweek : m ≤ 7 ∧ n ≤ 7
    · simp only [renumberWritten, splitOnce_append hdash, number?, hm, hn, hweek, if_true]
      exact (exists_renumberRange_eq_error_iff hweek.1 hweek.2).2 h
    · refine hpast ?_
      by_cases hfirst : m ≤ 7
      · exact .inr ⟨n, hn, by omega⟩
      · exact .inl ⟨m, hm, by omega⟩
  constructor
  · rintro ⟨fault, h⟩
    rw [renumberWritten, splitOnce_append hdash] at h
    rcases bind_eq_error_iff.1 h with h | ⟨m, hm, h⟩
    · exact .first (exists_number?_eq_error_iff.1 ⟨fault, h⟩)
    rcases bind_eq_error_iff.1 h with h | ⟨n, hn, h⟩
    · exact .last (exists_number?_eq_error_iff.1 ⟨fault, h⟩)
    cases m with
    | none => cases h
    | some m =>
      cases n with
      | none => cases h
      | some n =>
        obtain ⟨⟨hm, -⟩, hfirst⟩ := number?_eq_some_iff.1 hm
        obtain ⟨⟨hn, -⟩, hlast⟩ := number?_eq_some_iff.1 hn
        rcases (exists_renumberRange_eq_error_iff hfirst hlast).1 ⟨fault, h⟩ with
          hlt | ⟨hpos, hlt, rfl, hstep⟩
        · exact .backwards hm hn hlt
        · exact .toSunday hm hn hpos hlt hstep
  · intro h
    cases h with
    | first h => exact hpast (.inl h)
    | last h => exact hpast (.inr h)
    | backwards hm hn h => exact hrange hm hn (.inl h)
    | toSunday hm hlast hpos hlt hstep => exact hrange hm hlast (.inr ⟨hpos, hlt, rfl, hstep⟩)

theorem exists_renumberWritten_eq_error_iff {item written : List Char}
    {step : Option (List Char)} :
    (∃ fault, renumberWritten item written step = .error fault) ↔ RefusesWritten step written := by
  by_cases hdash : '-' ∈ written
  · obtain ⟨first, last, rfl, hfirst⟩ := List.eq_append_cons_of_mem hdash
    rw [refusesWritten_append_iff hfirst, exists_renumberWritten_append_eq_error_iff hfirst]
  · rw [refusesWritten_iff_of_notMem hdash, ← exists_number?_eq_error_iff, renumberWritten,
      splitOnce_of_notMem hdash]
    cases number? written with
    | error fault => simp [bind, Except.bind]
    | ok day => cases day <;> simp [bind, Except.bind, pure, Except.pure]

theorem exists_renumberItem_eq_error_iff {item : List Char} :
    (∃ fault, renumberItem item = .error fault) ↔ Refuses item := by
  constructor
  · intro h
    obtain ⟨step, written, hslash, rfl⟩ := exists_withStep item
    rw [renumberItem_withStep hslash, exists_renumberWritten_eq_error_iff] at h
    exact .written hslash h
  · intro h
    cases h with
    | written hslash h =>
      rw [renumberItem_withStep hslash, exists_renumberWritten_eq_error_iff]
      exact h

/-- A word is refused for one of its items. -/
theorem exists_renumber_eq_error_iff {word : List Char} :
    (∃ fault, renumber word = .error fault) ↔
      ∃ item ∈ Text.cutAt (· = ',') word, Refuses item := by
  have hitems : (∃ fault, renumber word = .error fault) ↔
      ∃ fault, (Text.cutAt (· = ',') word).mapM renumberItem = .error fault := by
    unfold renumber
    cases (Text.cutAt (· = ',') word).mapM renumberItem <;>
      simp [bind, Except.bind, pure, Except.pure]
  rw [hitems, ← not_iff_not, ← isOk_iff_not_error, exists_mapM_eq_ok_iff]
  simp only [exists_renumberItem_eq_error_iff]
  push Not
  rfl

/-! ## Days -/

/-- Renumbering a well-formed word keeps its days, unless a range from the second Sunday to itself
has a step: then the days that the step counts on to are added. It fails if and only if an item is
refused. -/
theorem renumber_days (word : List Char) :
    (∀ items renumbered, Field.dayOfWeek.Lists word items →
      (∀ item ∈ items, item.IsProper .dayOfWeek ∧ StepsThroughRun item) →
      renumber word = .ok renumbered →
      ∃ numbers, readField? .dayOfWeek renumbered = some (numbers, []) ∧
        (∀ day < 7, numbers.contain (day + 1) = true ↔
          AllowsDay word day ∨ ∃ step, .stepped (.range 7 7) step ∈ items ∧ step ∣ day) ∧
        ((∀ step, .stepped (.range 7 7) step ∉ items) →
          ∀ day < 7, numbers.contain (day + 1) = true ↔ AllowsDay word day)) ∧
    ((∃ fault, renumber word = .error fault) ↔
      ∃ item ∈ Text.cutAt (· = ',') word, Refuses item) := by
  refine ⟨fun items renumbered hitems hproper hrenumber => ?_, exists_renumber_eq_error_iff⟩
  have hword : Field.dayOfWeek.IsWord word :=
    ⟨items, hitems, fun item hitem => (hproper item hitem).1⟩
  obtain ⟨numbers, hreads⟩ := (isWord_iff_exists_reads hrenumber).1 hword
  have hcounts (day : Nat) : (∃ item ∈ items, item.CountsOn day) ↔
      ∃ step, .stepped (.range 7 7) step ∈ items ∧ step ∣ day := by
    constructor
    · rintro ⟨item, hitem, step, hstepped, hdvd⟩
      exact ⟨step, hstepped ▸ hitem, hdvd⟩
    · rintro ⟨step, hitem, hdvd⟩
      exact ⟨_, hitem, step, rfl, hdvd⟩
  have hdays (day : Nat) (hday : day < 7) : numbers.contain (day + 1) = true ↔
      AllowsDay word day ∨ ∃ step, .stepped (.range 7 7) step ∈ items ∧ step ∣ day := by
    rw [← hcounts]
    exact contain_iff_allows_or_countsOn hrenumber hitems
      (fun item hitem => (hproper item hitem).2) hreads hday
  refine ⟨numbers, hreads.readField?_last, hdays, fun hnone day hday => ?_⟩
  rw [hdays day hday, or_iff_left]
  rintro ⟨step, hitem, _⟩
  exact hnone step hitem

/-- Every day but Thursday. -/
theorem renumber_days_but_thursday :
    let word := ['*', '/', '3', ',', '1', '-', '5', '/', '2', ',', '5', '-', '7', ',', 't', 'u', 'e']
    let renumbered :=
      ['*', '/', '3', ',', '2', '-', '6', '/', '2', ',', '6', '-', '7', ',', '1', ',', 't', 'u', 'e']
    let items : List Item :=
      [.stepped .all 3, .stepped (.range 1 5) 2, .span (.range 5 7), .named ['t', 'u', 'e']]
    Field.dayOfWeek.Lists word items ∧
      (∀ item ∈ items, item.IsProper .dayOfWeek ∧ StepsThroughRun item) ∧
      renumber word = .ok renumbered ∧
      ∃ numbers, readField? .dayOfWeek renumbered = some (numbers, []) ∧ ∀ day < 7,
        (numbers.contain (day + 1) = true ↔ AllowsDay word day) ∧ (AllowsDay word day ↔ day ≠ 4) := by
  intro word renumbered items
  have hnumeral {n : Nat} (h : n < 10) : IsNumeral (Decimal.digits n) n := isNumeral_digits h
  have hitems : Field.dayOfWeek.Lists word items :=
    .cons (.stepped .star (hnumeral (by decide : 3 < 10)))
      (.cons (.stepped (.range (hnumeral (by decide : 1 < 10)) (hnumeral (by decide : 5 < 10)))
          (hnumeral (by decide : 2 < 10)))
        (.cons (.span (.range (hnumeral (by decide : 5 < 10)) (hnumeral (by decide : 7 < 10))))
          (.cons (.named ⟨by simp, List.all_eq_true.1 rfl⟩) .nil)))
  have hproper : ∀ item ∈ items, item.IsProper .dayOfWeek ∧ StepsThroughRun item := by
    simp only [items, List.forall_mem_cons]
    exact ⟨⟨⟨_, rfl, by decide⟩, by simp [StepsThroughRun]⟩,
      ⟨⟨_, rfl, by decide⟩, by simp [StepsThroughRun]⟩,
      ⟨⟨_, rfl, by decide⟩, by simp [StepsThroughRun]⟩,
      ⟨⟨⟨2, 2, 1⟩, by decide, by decide⟩, by simp [StepsThroughRun]⟩, by simp⟩
  have hrenumber : renumber word = .ok renumbered := by decide +kernel
  obtain ⟨numbers, hread, -, hdays⟩ :=
    (renumber_days word).1 items renumbered hitems hproper hrenumber
  have hsame := hdays (by simp [items])
  have hnumbers : readField? .dayOfWeek renumbered =
      some ([⟨1, 7, 3⟩, ⟨2, 6, 2⟩, ⟨6, 7, 1⟩, ⟨1, 1, 1⟩, ⟨3, 3, 1⟩], []) := rfl
  obtain rfl : numbers = _ := (Prod.mk.inj (Option.some.inj (hread.symm.trans hnumbers))).1
  refine ⟨hitems, hproper, hrenumber, _, hread, fun day hday => ⟨hsame day hday, ?_⟩⟩
  rw [← hsame day hday]
  revert day
  decide

/-- A range from Sunday to Sunday with a step becomes a number with a step. The word allows Sunday
alone, and the renumbered word Tuesday too. -/
theorem renumber_days_counts_on :
    let word := ['7', '-', '7', '/', '2']
    Field.dayOfWeek.Lists word [.stepped (.range 7 7) 2] ∧
      (Item.stepped (.range 7 7) 2).IsProper .dayOfWeek ∧
      renumber word = .ok ['1', '/', '2'] ∧
      readField? .dayOfWeek ['1', '/', '2'] = some ([⟨1, 7, 2⟩], []) ∧
      Numbers.contain [⟨1, 7, 2⟩] (2 + 1) = true ∧ ¬AllowsDay word 2 := by
  intro word
  have hnumeral {n : Nat} (h : n < 10) : IsNumeral (Decimal.digits n) n := isNumeral_digits h
  have hitems : Field.dayOfWeek.Lists word [.stepped (.range 7 7) 2] :=
    .cons (.stepped (.range (hnumeral (by decide : 7 < 10)) (hnumeral (by decide : 7 < 10)))
      (hnumeral (by decide : 2 < 10))) .nil
  refine ⟨hitems, ⟨_, rfl, by decide⟩, by decide +kernel, rfl, rfl, ?_⟩
  rw [allowsDay_iff hitems]
  simp [Item.AllowsDay, Progression.AllowsDay, IsAmong, Field.progression?, Field.bounds?,
    Progression.contains]

end CrontabRenderer.Schedule.Weekday
