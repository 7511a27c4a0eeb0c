import CrontabRenderer.Proofs.Schedule.CrontabWord

/-!
# Items for days of the week

A crontab counts the days of the week from Sunday at `0` and has Sunday at `7` again; a timetable
counts them from `1`. The items that stand for a well-formed item in a timetable have numbers. They
are those of the same days, unless a step counts on (`Item.IsProper.renumber`): that is so behind a
single number and behind the number that a range from Sunday to Sunday is written as. What is an
item of a timetable as it stands is well-formed in a crontab too
(`Item.isProper_of_itemNumbers?`).
-/
namespace CrontabRenderer.Schedule

/-- The runs of timetable numbers for a run of crontab numbers. With a step no run is cut. -/
def Span.renumber (stepped : Bool) : Span → Option (List Span)
  | .point n => some [.point (n % 7 + 1)]
  | .range first last =>
    if first = 7 then some [.point 1]
    else if last < 7 then some [.range (first + 1) (last + 1)]
    else if first = 0 then some [.range 1 7]
    else if stepped then none
    else some [.range (first + 1) 7, .point 1]
  | span => some [span]

/-- The items for a timetable that an item of a crontab stands for. -/
def Item.renumber : Item → Option (List Item)
  | .span run => (run.renumber false).map (·.map .span)
  | .stepped run step => (run.renumber true).map (·.map (.stepped · step))
  | .named name => some [.named name]

/-- A range from Sunday to Sunday becomes the one number of Sunday, and a step behind that number
counts on to the end of the week. -/
def Item.CountsOn (item : Item) (day : Nat) : Prop :=
  ∃ step, item = .stepped (.range 7 7) step ∧ step ∣ day

theorem Progression.contains_iff_of_step_one {first last n : Nat} :
    (⟨first, last, 1⟩ : Progression).contains n = true ↔ first ≤ n ∧ n ≤ last := by
  simp [Progression.contains, Nat.mod_one]

theorem Progression.contains_iff {p : Progression} {n : Nat} :
    p.contains n = true ↔ p.first ≤ n ∧ n ≤ p.last ∧ p.step ∣ n - p.first := by
  simp [Progression.contains, Nat.dvd_iff_mod_eq_zero, and_assoc]

theorem Item.isProper_iff {item : Item} :
    item.IsProper .dayOfWeek ↔ ∃ p, Field.dayOfWeek.progression? item = some p ∧
      p.first ≤ p.last ∧ p.last ≤ 7 ∧ 1 ≤ p.step ∧ p.step ≤ 7 := by
  simp [Item.IsProper, Progression.IsProper, Field.lowest, Field.last]

theorem Item.allowsDay_iff {item : Item} {p : Progression}
    (h : Field.dayOfWeek.progression? item = some p) {day : Nat} :
    item.AllowsDay day ↔ p.AllowsDay day := by
  simp only [AllowsDay, h, Option.some_inj, exists_eq_left']

/-- The day that a name stands for has one number more in a timetable. -/
theorem ofName?_of_nameNumber? {name : List Char} {n : Nat}
    (h : Field.dayOfWeek.nameNumber? name = some n) :
    Field.dayOfWeek.ofName? name = some (n + 1) ∧ n < 7 := by
  obtain ⟨m, hm, hn⟩ := Option.map_eq_some_iff.1 h
  have hcontains : decide (1 ≤ m) && decide (m ≤ 7) := Field.contains_ofName? hm
  have hn : m - 1 = n := hn
  simp only [Bool.and_eq_true, decide_eq_true_eq] at hcontains
  rw [hm, Option.some_inj]
  omega

theorem run?_dayOfWeek {first last : Nat} (hfirst : 1 ≤ first) (hle : first ≤ last)
    (hlast : last ≤ 7) : Field.dayOfWeek.run? first last 1 = some ⟨first, last, 1⟩ :=
  Field.run?_eq_some_iff.2 ⟨hfirst, hle, hlast, rfl⟩

/-- The runs have numbers, and they are those of the days. -/
def Span.AreDays (runs : List Span) (days : Nat → Prop) : Prop :=
  ∃ numbers : Numbers,
    List.Forall₂ (fun run p => Field.dayOfWeek.spanNumbers? 1 run = some p) runs numbers ∧
    ∀ day < 7, numbers.contain (day + 1) = true ↔ days day

theorem Span.areDays_singleton {run : Span} {first last : Nat} {days : Nat → Prop}
    (hrun : Field.dayOfWeek.spanNumbers? 1 run = some ⟨first, last, 1⟩)
    (hdays : ∀ day < 7, first ≤ day + 1 ∧ day + 1 ≤ last ↔ days day) :
    Span.AreDays [run] days := by
  refine ⟨[⟨first, last, 1⟩], .cons hrun .nil, fun day hday => ?_⟩
  rw [← hdays day hday]
  simp [Numbers.contain, Progression.contains_iff_of_step_one]

theorem Span.areDays_renumber_range {runs : List Span} {stepped : Bool} {first last : Nat}
    (hle : first ≤ last) (hlast : last ≤ 7)
    (h : (Span.range first last).renumber stepped = some runs) :
    Span.AreDays runs fun day => first ≤ day ∧ day ≤ last ∨ day = 0 ∧ last = 7 := by
  rw [Span.renumber] at h
  split at h
  · obtain rfl := Option.some.inj h
    refine areDays_singleton (run?_dayOfWeek le_rfl le_rfl (by decide)) fun day hday => ?_
    omega
  split at h
  · obtain rfl := Option.some.inj h
    refine areDays_singleton (run?_dayOfWeek (by omega) (by omega) (by omega)) fun day hday => ?_
    omega
  split at h
  · obtain rfl := Option.some.inj h
    refine areDays_singleton (run?_dayOfWeek le_rfl (by decide) le_rfl) fun day hday => ?_
    omega
  split at h
  · cases h
  -- A range that ends on Sunday is cut in two.
  · obtain rfl := Option.some.inj h
    refine ⟨[⟨first + 1, 7, 1⟩, ⟨1, 1, 1⟩], .cons (run?_dayOfWeek (by omega) (by omega) le_rfl)
      (.cons (run?_dayOfWeek le_rfl le_rfl (by decide)) .nil), fun day hday => ?_⟩
    simp only [Numbers.contain, List.any_cons, List.any_nil, Bool.or_false, Bool.or_eq_true,
      Progression.contains_iff_of_step_one]
    omega

/-- The runs that stand for a well-formed run have numbers, and they are those of the same days. -/
theorem Span.areDays_renumber {run : Span} {runs : List Span} {stepped : Bool} {first last : Nat}
    (hbounds : Field.dayOfWeek.bounds? run = some (first, last)) (hle : first ≤ last)
    (hlast : last ≤ 7) (hrenumber : run.renumber stepped = some runs) :
    Span.AreDays runs fun day => first ≤ day ∧ day ≤ last ∨ day = 0 ∧ last = 7 := by
  cases run with
  | all =>
    obtain ⟨rfl, rfl⟩ := Prod.mk.inj (Option.some.inj hbounds)
    obtain rfl := Option.some.inj hrenumber
    refine areDays_singleton (run?_dayOfWeek le_rfl (by decide) le_rfl) fun day hday => ?_
    simp only [Field.first, Field.lowest, Field.last]
    omega
  | point n =>
    obtain ⟨rfl, rfl⟩ := Prod.mk.inj (Option.some.inj hbounds)
    obtain rfl := Option.some.inj hrenumber
    refine areDays_singleton (run?_dayOfWeek (by omega) le_rfl (by omega)) fun day hday => ?_
    omega
  | range m n =>
    obtain ⟨rfl, rfl⟩ := Prod.mk.inj (Option.some.inj hbounds)
    exact areDays_renumber_range hle hlast hrenumber
  | namedRange from' to' =>
    simp only [Field.bounds?, Option.bind_eq_bind, Option.bind_eq_some_iff] at hbounds
    obtain ⟨m, hm, n, hn, hbounds⟩ := hbounds
    obtain ⟨rfl, rfl⟩ := Prod.mk.inj (Option.some.inj hbounds)
    obtain rfl := Option.some.inj hrenumber
    obtain ⟨hm, hm'⟩ := ofName?_of_nameNumber? hm
    obtain ⟨hn, hn'⟩ := ofName?_of_nameNumber? hn
    have hrun : Field.dayOfWeek.spanNumbers? 1 (.namedRange from' to') =
        some ⟨m + 1, n + 1, 1⟩ := by
      simpa [Field.spanNumbers?, hm, hn] using run?_dayOfWeek (by omega) (by omega) (by omega)
    refine areDays_singleton hrun fun day hday => ?_
    omega

/-- A step takes any run that has numbers. -/
theorem exists_itemNumbers?_stepped_iff {field : Field} {run : Span} {step : Nat} :
    (∃ p, field.itemNumbers? (.stepped run step) = some p) ↔
      (1 ≤ step ∧ step ≤ field.last) ∧ ∃ p, field.spanNumbers? 1 run = some p := by
  have hrun (first last step : Nat) : (∃ p, field.run? first last step = some p) ↔
      field.first ≤ first ∧ first ≤ last ∧ last ≤ field.last := by
    simp [Field.run?_eq_some_iff]
  simp only [Field.itemNumbers?, Option.ite_none_right_eq_some, exists_and_left]
  refine and_congr_right fun hstep => ?_
  cases run with
  | all => simp only [Field.spanNumbers?, hrun]
  | point n =>
    simp only [Field.spanNumbers?, hrun]
    omega
  | range first last => simp only [Field.spanNumbers?, hrun]
  | namedRange from' to' =>
    simp only [Field.spanNumbers?]
    cases field.ofName? from' with
    | none => simp
    | some m =>
      cases field.ofName? to' with
      | none => simp
      | some n => simp [hrun]

theorem Item.isProper_span_iff {run : Span} : (Item.span run).IsProper .dayOfWeek ↔
    ∃ first last, Field.dayOfWeek.bounds? run = some (first, last) ∧ first ≤ last ∧ last ≤ 7 := by
  rw [Item.isProper_iff]
  constructor
  · rintro ⟨p, hp, hle, hlast, -⟩
    obtain ⟨⟨first, last⟩, hbounds, rfl⟩ := Option.map_eq_some_iff.1 hp
    exact ⟨first, last, hbounds, hle, hlast⟩
  · rintro ⟨first, last, hbounds, hle, hlast⟩
    exact ⟨⟨first, last, 1⟩, by simp [Field.progression?, hbounds], hle, hlast, le_rfl, by simp⟩

theorem Item.isProper_stepped_iff {run : Span} {step : Nat} :
    (Item.stepped run step).IsProper .dayOfWeek ↔
      (1 ≤ step ∧ step ≤ 7) ∧ (Item.span run).IsProper .dayOfWeek := by
  have hrun : (∃ p, Field.dayOfWeek.bounds? run = some p ∧
      p.1 ≤ p.2 ∧ p.2 ≤ 7 ∧ 1 ≤ step ∧ step ≤ 7) ↔
      (1 ≤ step ∧ step ≤ 7) ∧ (Item.span run).IsProper .dayOfWeek := by
    rw [Item.isProper_span_iff, Prod.exists]
    constructor
    · rintro ⟨first, last, hbounds, hle, hlast, hstep⟩
      exact ⟨hstep, first, last, hbounds, hle, hlast⟩
    · rintro ⟨hstep, first, last, hbounds, hle, hlast⟩
      exact ⟨first, last, hbounds, hle, hlast, hstep⟩
  rw [← hrun, Item.isProper_iff]
  cases run with
  | point n =>
    simp [Field.progression?, Field.bounds?, Field.last]
  | all => simp [Field.progression?, Field.bounds?]
  | range first last => simp [Field.progression?, Field.bounds?]
  | namedRange from' to' =>
    simp only [Field.progression?, Option.map_eq_some_iff]
    simp

/-! ## Steps -/

theorem Item.allowsDay_stepped_iff {run : Span} {step first last day : Nat}
    (hpoint : ∀ n, run ≠ .point n) (hbounds : Field.dayOfWeek.bounds? run = some (first, last)) :
    (Item.stepped run step).AllowsDay day ↔
      (⟨first, last, step⟩ : Progression).AllowsDay day := by
  have hprogression : Field.dayOfWeek.progression? (.stepped run step) =
      some ⟨first, last, step⟩ := by
    cases run with
    | point n => exact absurd rfl (hpoint n)
    | all => simp [Field.progression?, hbounds]
    | range m n => simp [Field.progression?, hbounds]
    | namedRange from' to' => simp [Field.progression?, hbounds]
  exact Item.allowsDay_iff hprogression

theorem Item.not_countsOn_stepped {run : Span} (hrun : run ≠ .range 7 7) (step day : Nat) :
    ¬(Item.stepped run step).CountsOn day := by
  simp [CountsOn, hrun]

/-- Numbers that end before the second Sunday are one higher in a timetable. -/
theorem Progression.contains_succ_iff {first last step day : Nat} (hlast : last < 7) :
    (⟨first + 1, last + 1, step⟩ : Progression).contains (day + 1) = true ↔
      (⟨first, last, step⟩ : Progression).AllowsDay day := by
  have hsunday : ¬(⟨first, last, step⟩ : Progression).contains 7 = true := by
    rw [contains_iff]
    simp only
    omega
  simp only [AllowsDay, Weekday.IsAmong, contains_iff, hsunday]
  simp

theorem Progression.contains_week_iff {step day : Nat} (hday : day < 7) :
    (⟨1, 7, step⟩ : Progression).contains (day + 1) = true ↔ step ∣ day := by
  have hbounds : 1 ≤ day + 1 ∧ day + 1 ≤ 7 := by omega
  simp [contains_iff, hbounds]

/-- A step from the first Sunday to the second allows a second Sunday only where there is the
first. -/
theorem Progression.allowsDay_week_iff {step day : Nat} (hday : day < 7) :
    (⟨0, 7, step⟩ : Progression).AllowsDay day ↔ step ∣ day := by
  simp only [AllowsDay, Weekday.IsAmong, contains_iff]
  constructor
  · rintro (⟨-, -, h⟩ | ⟨rfl, -⟩)
    · exact h
    · exact Nat.dvd_zero step
  · intro h
    exact .inl ⟨Nat.zero_le day, by omega, h⟩

/-- From the second Sunday a step counts no further. -/
theorem Progression.allowsDay_sunday_iff {step day : Nat} (hday : day < 7) :
    (⟨7, 7, step⟩ : Progression).AllowsDay day ↔ day = 0 := by
  simp only [AllowsDay, Weekday.IsAmong, contains_iff]
  constructor
  · rintro (⟨h, -⟩ | ⟨h, -⟩)
    · omega
    · exact h
  · rintro rfl
    exact .inr ⟨rfl, le_rfl, le_rfl, Nat.dvd_zero step⟩

theorem numbers?_stepped {run : Span} {step first last : Nat} (hfirst : 1 ≤ first)
    (hle : first ≤ last) (hlast : last ≤ 7)
    (hitem : Field.dayOfWeek.itemNumbers? (.stepped run step) =
      Field.dayOfWeek.run? first last step) :
    Field.dayOfWeek.numbers? ([run].map (.stepped · step)) = some [⟨first, last, step⟩] := by
  refine Field.numbers?_eq_some_iff.2 (.cons ?_ .nil)
  rw [hitem, Field.run?_eq_some_iff]
  exact ⟨hfirst, hle, hlast, rfl⟩

theorem Item.exists_numbers?_stepped_range {runs : List Span} {first last step : Nat}
    (hle : first ≤ last) (hlast : last ≤ 7) (hstep : 1 ≤ step ∧ step ≤ 7)
    (hrenumber : (Span.range first last).renumber true = some runs) :
    ∃ p, Field.dayOfWeek.numbers? (runs.map (.stepped · step)) = some [p] ∧
      ∀ day < 7, p.contains (day + 1) = true ↔ (⟨first, last, step⟩ : Progression).AllowsDay day ∨
        (Item.stepped (.range first last) step).CountsOn day := by
  rw [Span.renumber] at hrenumber
  split at hrenumber
  -- Of a range from Sunday to Sunday one number is left, and the step behind it counts on.
  · rename_i hsunday
    obtain rfl := Option.some.inj hrenumber
    subst hsunday
    obtain rfl : last = 7 := by omega
    refine ⟨⟨1, 7, step⟩, numbers?_stepped le_rfl (by decide) le_rfl (if_pos hstep),
      fun day hday => ?_⟩
    rw [Progression.contains_week_iff hday, Progression.allowsDay_sunday_iff hday]
    simp only [CountsOn, stepped.injEq, true_and, exists_eq_left']
    constructor
    · exact .inr
    · rintro (rfl | h)
      · exact Nat.dvd_zero step
      · exact h
  rename_i hsunday
  have hkept (day : Nat) : ¬(Item.stepped (.range first last) step).CountsOn day :=
    not_countsOn_stepped (by simp [hsunday]) step day
  simp only [hkept, or_false]
  split at hrenumber
  · rename_i hlt
    obtain rfl := Option.some.inj hrenumber
    exact ⟨⟨first + 1, last + 1, step⟩,
      numbers?_stepped (by omega) (by omega) (by omega) (if_pos hstep),
      fun day _ => Progression.contains_succ_iff hlt⟩
  split at hrenumber
  · rename_i hzero
    obtain rfl := Option.some.inj hrenumber
    subst hzero
    obtain rfl : last = 7 := by omega
    refine ⟨⟨1, 7, step⟩, numbers?_stepped le_rfl (by decide) le_rfl (if_pos hstep),
      fun day hday => ?_⟩
    rw [Progression.contains_week_iff hday, Progression.allowsDay_week_iff hday]
  · cases hrenumber

/-- A step behind a run that is not a single number keeps the days of the run, unless it counts
on. -/
theorem Item.exists_numbers?_stepped {run : Span} {runs : List Span} {step first last : Nat}
    (hpoint : ∀ n, run ≠ .point n) (hbounds : Field.dayOfWeek.bounds? run = some (first, last))
    (hle : first ≤ last) (hlast : last ≤ 7) (hstep : 1 ≤ step ∧ step ≤ 7)
    (hrenumber : run.renumber true = some runs) :
    ∃ p, Field.dayOfWeek.numbers? (runs.map (.stepped · step)) = some [p] ∧
      ∀ day < 7, p.contains (day + 1) = true ↔ (⟨first, last, step⟩ : Progression).AllowsDay day ∨
        (Item.stepped run step).CountsOn day := by
  cases run with
  | point n => exact absurd rfl (hpoint n)
  | range m n =>
    obtain ⟨rfl, rfl⟩ := Prod.mk.inj (Option.some.inj hbounds)
    exact exists_numbers?_stepped_range hle hlast hstep hrenumber
  | all =>
    obtain ⟨rfl, rfl⟩ := Prod.mk.inj (Option.some.inj hbounds)
    obtain rfl := Option.some.inj hrenumber
    refine ⟨⟨1, 7, step⟩, numbers?_stepped le_rfl (by decide) le_rfl (if_pos hstep),
      fun day hday => ?_⟩
    rw [Progression.contains_week_iff hday, or_iff_left (not_countsOn_stepped (by simp) step day)]
    exact (Progression.allowsDay_week_iff hday).symm
  | namedRange from' to' =>
    simp only [Field.bounds?, Option.bind_eq_bind, Option.bind_eq_some_iff] at hbounds
    obtain ⟨m, hm, n, hn, hbounds⟩ := hbounds
    obtain ⟨rfl, rfl⟩ := Prod.mk.inj (Option.some.inj hbounds)
    obtain rfl := Option.some.inj hrenumber
    obtain ⟨hm, hm'⟩ := ofName?_of_nameNumber? hm
    obtain ⟨hn, hn'⟩ := ofName?_of_nameNumber? hn
    have hitem : Field.dayOfWeek.itemNumbers? (.stepped (.namedRange from' to') step) =
        Field.dayOfWeek.run? (m + 1) (n + 1) step := by
      refine (if_pos hstep).trans ?_
      simp [Field.spanNumbers?, hm, hn]
    refine ⟨⟨m + 1, n + 1, step⟩, numbers?_stepped (by omega) (by omega) (by omega) hitem,
      fun day _ => ?_⟩
    rw [or_iff_left (not_countsOn_stepped (by simp) step day)]
    exact Progression.contains_succ_iff hn'

/-- The items that stand for a well-formed item have numbers. They are those of the same days,
unless a step counts on. -/
theorem Item.IsProper.renumber {item : Item} {items : List Item}
    (h : item.IsProper .dayOfWeek) (hrenumber : item.renumber = some items) :
    ∃ numbers, Field.dayOfWeek.numbers? items = some numbers ∧
      ((∀ n step, item ≠ .stepped (.point n) step) →
        ∀ day < 7, numbers.contain (day + 1) = true ↔ item.AllowsDay day ∨ item.CountsOn day) := by
  cases item with
  | span run =>
    obtain ⟨first, last, hbounds, hle, hlast⟩ := Item.isProper_span_iff.1 h
    obtain ⟨runs, hruns, rfl⟩ := Option.map_eq_some_iff.1 hrenumber
    obtain ⟨numbers, hnumbers, hdays⟩ := Span.areDays_renumber hbounds hle hlast hruns
    refine ⟨numbers, Field.numbers?_eq_some_iff.2 (List.forall₂_map_left_iff.2 hnumbers),
      fun _ day hday => ?_⟩
    have hprogression : Field.dayOfWeek.progression? (.span run) = some ⟨first, last, 1⟩ := by
      simp [Field.progression?, hbounds]
    rw [hdays day hday, Item.allowsDay_iff hprogression]
    simp [Progression.AllowsDay, Weekday.IsAmong, Item.CountsOn,
      Progression.contains_iff_of_step_one]
    omega
  | named name =>
    obtain ⟨p, hp, -⟩ := h
    obtain ⟨n, hn, rfl⟩ := Option.map_eq_some_iff.1 hp
    obtain rfl := Option.some.inj hrenumber
    obtain ⟨hname, hlt⟩ := ofName?_of_nameNumber? hn
    have hitem : Field.dayOfWeek.itemNumbers? (.named name) = some ⟨n + 1, n + 1, 1⟩ := by
      simpa [Field.itemNumbers?, hname] using run?_dayOfWeek (by omega) le_rfl (by omega)
    refine ⟨[⟨n + 1, n + 1, 1⟩], Field.numbers?_eq_some_iff.2 (.cons hitem .nil),
      fun _ day hday => ?_⟩
    have hprogression : Field.dayOfWeek.progression? (.named name) = some ⟨n, n, 1⟩ := by
      simp [Field.progression?, hn]
    rw [Item.allowsDay_iff hprogression]
    simp [Numbers.contain, Progression.AllowsDay, Weekday.IsAmong, Item.CountsOn,
      Progression.contains_iff_of_step_one]
    omega
  | stepped run step =>
    obtain ⟨hstep, hrun⟩ := Item.isProper_stepped_iff.1 h
    obtain ⟨first, last, hbounds, hle, hlast⟩ := Item.isProper_span_iff.1 hrun
    obtain ⟨runs, hruns, rfl⟩ := Option.map_eq_some_iff.1 hrenumber
    by_cases hpoint : ∃ n, run = .point n
    · obtain ⟨n, rfl⟩ := hpoint
      obtain rfl := Option.some.inj hruns
      have hmod : n % 7 < 7 := Nat.mod_lt n (by decide)
      exact ⟨[⟨n % 7 + 1, 7, step⟩],
        numbers?_stepped (Nat.le_add_left 1 _) hmod le_rfl (if_pos hstep),
        fun hnotPoint => absurd rfl (hnotPoint n step)⟩
    · have hpoint : ∀ n, run ≠ .point n := fun n hn => hpoint ⟨n, hn⟩
      obtain ⟨p, hp, hdays⟩ :=
        exists_numbers?_stepped hpoint hbounds hle hlast hstep hruns
      refine ⟨[p], hp, fun _ day hday => ?_⟩
      rw [allowsDay_stepped_iff hpoint hbounds, ← hdays day hday]
      simp [Numbers.contain]

/-- What reads as an item of a timetable is well-formed by the numbers of crontabs. -/
theorem Item.isProper_of_itemNumbers? {item : Item} {p : Progression}
    (h : Field.dayOfWeek.itemNumbers? item = some p) : item.IsProper .dayOfWeek := by
  have hspan {run : Span} {p : Progression} (h : Field.dayOfWeek.spanNumbers? 1 run = some p) :
      (Item.span run).IsProper .dayOfWeek := by
    rw [Item.isProper_span_iff]
    cases run with
    | all => exact ⟨0, 7, rfl, by decide, le_rfl⟩
    | point n =>
      obtain ⟨-, -, hlast, -⟩ := Field.run?_eq_some_iff.1 h
      exact ⟨n, n, rfl, le_rfl, hlast⟩
    | range first last =>
      obtain ⟨-, hle, hlast, -⟩ := Field.run?_eq_some_iff.1 h
      exact ⟨first, last, rfl, hle, hlast⟩
    | namedRange from' to' =>
      simp only [Field.spanNumbers?, Option.bind_eq_bind, Option.bind_eq_some_iff] at h
      obtain ⟨m, hm, n, hn, h⟩ := h
      obtain ⟨-, hle, hlast, -⟩ := Field.run?_eq_some_iff.1 h
      refine ⟨m - 1, n - 1, ?_, by omega, le_trans (Nat.sub_le n 1) hlast⟩
      simp [Field.bounds?, Field.nameNumber?, hm, hn, Field.first, Field.lowest]
  cases item with
  | span run => exact hspan h
  | named name =>
    simp only [Field.itemNumbers?, Option.bind_eq_bind, Option.bind_eq_some_iff] at h
    obtain ⟨n, hn, h⟩ := h
    obtain ⟨-, -, hlast, -⟩ := Field.run?_eq_some_iff.1 h
    refine Item.isProper_iff.2 ⟨⟨n - 1, n - 1, 1⟩, ?_, le_rfl, le_trans (Nat.sub_le n 1) hlast,
      le_rfl, by simp⟩
    simp [Field.progression?, Field.nameNumber?, hn, Field.first, Field.lowest]
  | stepped run step =>
    obtain ⟨hstep, p, hp⟩ := exists_itemNumbers?_stepped_iff.1 ⟨p, h⟩
    exact Item.isProper_stepped_iff.2 ⟨hstep, hspan hp⟩

end CrontabRenderer.Schedule
