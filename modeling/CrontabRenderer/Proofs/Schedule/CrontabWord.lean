import CrontabRenderer.Proofs.Schedule.WordByWord

/-!
# Words of a crontab line

What a word of a crontab line means by the numbers of crontabs, in which the days of the week begin
with Sunday at `0` and end with Sunday at `7`. In every other field these are the numbers of
timetables: there a word is well-formed if and only if it reads as a field
(`Field.isWord_iff_exists_reads`), and it allows the same numbers (`Field.Reads.contain_iff`).
-/
namespace CrontabRenderer.Schedule

namespace Field

/-- The lowest number of a crontab in the place of the field. -/
def lowest : Field → Nat
  | .dayOfWeek => 0
  | field => field.first

/-- The number of a crontab that a name stands for. -/
def nameNumber? (field : Field) (name : List Char) : Option Nat :=
  (field.ofName? name).map (· - (field.first - field.lowest))

/-- The first and the last number of a run as it is written. -/
def bounds? (field : Field) : Span → Option (Nat × Nat)
  | .all => some (field.lowest, field.last)
  | .point n => some (n, n)
  | .range first last => some (first, last)
  | .namedRange first last => do return (← field.nameNumber? first, ← field.nameNumber? last)

/-- The numbers of an item as they are written. -/
def progression? (field : Field) : Item → Option Progression
  | .span span => (field.bounds? span).map fun (first, last) => ⟨first, last, 1⟩
  | .named name => (field.nameNumber? name).map fun n => ⟨n, n, 1⟩
  | .stepped (.point n) step => some ⟨n, field.last, step⟩
  | .stepped span step => (field.bounds? span).map fun (first, last) => ⟨first, last, step⟩

end Field

/-- The numbers and the step are in the range of the field, and none runs backwards. -/
def Progression.IsProper (field : Field) (p : Progression) : Prop :=
  field.lowest ≤ p.first ∧ p.first ≤ p.last ∧ p.last ≤ field.last ∧
    1 ≤ p.step ∧ p.step ≤ field.last

instance (field : Field) (p : Progression) : Decidable (p.IsProper field) :=
  inferInstanceAs (Decidable (_ ∧ _ ∧ _ ∧ _ ∧ _))

def Item.IsProper (field : Field) (item : Item) : Prop :=
  ∃ p, field.progression? item = some p ∧ p.IsProper field

/-- A word is a complete and well-formed field. -/
def Field.IsWord (field : Field) (word : List Char) : Prop :=
  ∃ items, field.Lists word items ∧ ∀ item ∈ items, item.IsProper field

/-- A word allows a number of a crontab. -/
def Field.Allows (field : Field) (word : List Char) (n : Nat) : Prop :=
  ∃ items, field.Lists word items ∧
    ∃ item ∈ items, ∃ p, field.progression? item = some p ∧ p.contains n = true

/-! ## Days of the week -/

/-- The day of the week is one of some numbers of a crontab. It is counted from Sunday at `0`, which
can be among them as `7` too. -/
def Weekday.IsAmong (day : Nat) (numbers : Nat → Prop) : Prop := numbers day ∨ day = 0 ∧ numbers 7

def Progression.AllowsDay (p : Progression) (day : Nat) : Prop :=
  Weekday.IsAmong day (p.contains · = true)

def Item.AllowsDay (item : Item) (day : Nat) : Prop :=
  ∃ p, Field.dayOfWeek.progression? item = some p ∧ p.AllowsDay day

/-- The word allows the day of the week. -/
def Weekday.AllowsDay (word : List Char) (day : Nat) : Prop :=
  IsAmong day (Field.dayOfWeek.Allows word)

/-! ## One reading of a text -/

theorem Item.IsText.unique {field : Field} {item item' : Item} {text : List Char}
    (h : item.IsText field text) (h' : item'.IsText field text) : item = item' := by
  obtain ⟨_, -, hread⟩ := h.readItem?_append (parts_nil _)
  obtain ⟨_, -, hread'⟩ := h'.readItem?_append (parts_nil _)
  rw [hread, Option.some_inj] at hread'
  exact congrArg Prod.fst hread'

theorem Field.Lists.unique {field : Field} {text : List Char} {items items' : List Item}
    (h : field.Lists text items) (h' : field.Lists text items') : items = items' := by
  have hunique : Relator.LeftUnique (Item.IsText field) := fun _ _ _ => Item.IsText.unique
  exact List.left_unique_forall₂' hunique h h'

theorem Field.Reads.unique {field : Field} {text : List Char} {numbers numbers' : Numbers}
    (h : field.Reads text numbers) (h' : field.Reads text numbers') : numbers = numbers' := by
  have hread := h.readField?_last
  rw [h'.readField?_last, Option.some_inj] at hread
  exact (congrArg Prod.fst hread).symm

theorem Field.allows_iff {field : Field} {word : List Char} {items : List Item}
    (h : field.Lists word items) {n : Nat} :
    field.Allows word n ↔
      ∃ item ∈ items, ∃ p, field.progression? item = some p ∧ p.contains n = true := by
  constructor
  · rintro ⟨items', h', hitem⟩
    rwa [h.unique h']
  · exact fun hitem => ⟨items, h, hitem⟩

/-- A word allows the days that its items allow. -/
theorem Weekday.allowsDay_iff {word : List Char} {items : List Item}
    (h : Field.dayOfWeek.Lists word items) {day : Nat} :
    AllowsDay word day ↔ ∃ item ∈ items, item.AllowsDay day := by
  simp only [AllowsDay, IsAmong, Field.allows_iff h]
  constructor
  · rintro (⟨item, hitem, p, hp, hday⟩ | ⟨hzero, item, hitem, p, hp, hday⟩)
    · exact ⟨item, hitem, p, hp, .inl hday⟩
    · exact ⟨item, hitem, p, hp, .inr ⟨hzero, hday⟩⟩
  · rintro ⟨item, hitem, p, hp, hday | ⟨hzero, hday⟩⟩
    · exact .inl ⟨item, hitem, p, hp, hday⟩
    · exact .inr ⟨hzero, item, hitem, p, hp, hday⟩

/-- A well-formed word allows a number in the range of the field. -/
theorem Field.IsWord.exists_allows {field : Field} {word : List Char} (h : field.IsWord word) :
    ∃ n, field.lowest ≤ n ∧ n ≤ field.last ∧ field.Allows word n := by
  obtain ⟨items, hitems, hproper⟩ := h
  obtain ⟨first, texts, htexts, -⟩ := hitems.exists_texts
  obtain ⟨item, rest, -, -, rfl⟩ := List.forall₂_cons_right_iff.1 htexts
  obtain ⟨p, hp, hlow, hle, hlast, -⟩ := hproper item List.mem_cons_self
  refine ⟨p.first, hlow, hle.trans hlast,
    (allows_iff hitems).2 ⟨item, List.mem_cons_self, p, hp, ?_⟩⟩
  simp [Progression.contains, hle]

/-! ## The numbers of a timetable -/

theorem Field.numbers?_eq_some_iff {field : Field} {items : List Item} {numbers : Numbers} :
    field.numbers? items = some numbers ↔
      List.Forall₂ (fun item p => field.itemNumbers? item = some p) items numbers := by
  induction items generalizing numbers with
  | nil => simp [Field.numbers?, eq_comm]
  | cons item items ih =>
    rw [Field.numbers?] at ih ⊢
    simp only [List.mapM_cons, Option.bind_eq_bind, Option.bind_eq_some_iff, Option.pure_def,
      Option.some_inj]
    constructor
    · rintro ⟨p, hp, rest, hrest, rfl⟩
      exact .cons hp (ih.1 hrest)
    · rintro (_ | ⟨hp, hrest⟩)
      exact ⟨_, hp, _, ih.2 hrest, rfl⟩

theorem Field.exists_numbers?_iff {field : Field} {items : List Item} :
    (∃ numbers, field.numbers? items = some numbers) ↔
      ∀ item ∈ items, ∃ p, field.itemNumbers? item = some p := by
  simp only [numbers?_eq_some_iff]
  induction items with
  | nil => exact ⟨fun _ => by simp, fun _ => ⟨[], .nil⟩⟩
  | cons item items ih =>
    rw [List.forall_mem_cons, ← ih]
    constructor
    · rintro ⟨_, _ | ⟨hp, hrest⟩⟩
      exact ⟨⟨_, hp⟩, _, hrest⟩
    · rintro ⟨⟨p, hp⟩, numbers, hrest⟩
      exact ⟨p :: numbers, .cons hp hrest⟩

theorem Numbers.contain_iff {numbers : Numbers} {n : Nat} :
    numbers.contain n = true ↔ ∃ p ∈ numbers, p.contains n = true := by
  simp [Numbers.contain]

theorem Field.contains_ofName? {field : Field} {name : List Char} {n : Nat}
    (h : field.ofName? name = some n) : field.contains n = true := by
  have hnames : ∀ pair ∈ field.names, field.contains pair.2 = true := by
    cases field <;> decide
  obtain ⟨before, after, hsplit, -⟩ := List.lookup_eq_some_iff.1 h
  exact hnames (String.ofList (name.map Char.toLower), n) (by rw [hsplit]; simp)

theorem Field.run?_eq_some_iff {field : Field} {first last step : Nat} {p : Progression} :
    field.run? first last step = some p ↔
      field.first ≤ first ∧ first ≤ last ∧ last ≤ field.last ∧ p = ⟨first, last, step⟩ := by
  simp only [Field.run?, Field.contains, Bool.and_eq_true, decide_eq_true_eq]
  constructor
  · intro h
    split at h
    · rename_i hrun
      exact ⟨hrun.1.1, hrun.2.2, hrun.2.1.2, (Option.some.inj h).symm⟩
    · cases h
  · rintro ⟨hfirst, hle, hlast, rfl⟩
    rw [if_pos (by omega)]

theorem Field.one_le_last (field : Field) : 1 ≤ field.last := by
  cases field <;> decide

theorem Field.nameNumber?_eq_ofName? {field : Field} (hfield : field.lowest = field.first)
    (name : List Char) : field.nameNumber? name = field.ofName? name := by
  simp [Field.nameNumber?, hfield]

section

variable {field : Field} {p : Progression}

theorem Field.run?_eq_some_iff_isProper (hfield : field.lowest = field.first)
    (first last step : Nat) :
    (1 ≤ step ∧ step ≤ field.last ∧ field.run? first last step = some p) ↔
      (⟨first, last, step⟩ : Progression) = p ∧ p.IsProper field := by
  rw [run?_eq_some_iff, Progression.IsProper, hfield]
  constructor
  · rintro ⟨h, h', hfirst, hle, hlast, rfl⟩
    exact ⟨rfl, hfirst, hle, hlast, h, h'⟩
  · rintro ⟨rfl, hfirst, hle, hlast, h, h'⟩
    exact ⟨h, h', hfirst, hle, hlast, rfl⟩

theorem Field.spanNumbers?_eq_some_iff (hfield : field.lowest = field.first) (span : Span)
    (step : Nat) :
    (1 ≤ step ∧ step ≤ field.last ∧ field.spanNumbers? step span = some p) ↔
      (field.bounds? span).map (fun (first, last) => (⟨first, last, step⟩ : Progression)) = some p ∧
        p.IsProper field := by
  cases span with
  | all => simpa [spanNumbers?, bounds?, hfield] using run?_eq_some_iff_isProper hfield _ _ step
  | point n => simpa [spanNumbers?, bounds?] using run?_eq_some_iff_isProper hfield n n step
  | range first last =>
    simpa [spanNumbers?, bounds?] using run?_eq_some_iff_isProper hfield first last step
  | namedRange first last =>
    simp only [spanNumbers?, bounds?, nameNumber?_eq_ofName? hfield]
    cases field.ofName? first with
    | none => simp
    | some m =>
      cases field.ofName? last with
      | none => simp
      | some n => simpa using run?_eq_some_iff_isProper hfield m n step

/-- Where both number alike, an item has the numbers in a timetable that it is written with, unless
it is not well-formed. -/
theorem Field.itemNumbers?_eq_some_iff (hfield : field.lowest = field.first) {item : Item} :
    field.itemNumbers? item = some p ↔ field.progression? item = some p ∧ p.IsProper field := by
  have hlast := field.one_le_last
  cases item with
  | span span =>
    simpa [itemNumbers?, progression?, hlast] using spanNumbers?_eq_some_iff hfield span 1
  | named name =>
    simp only [itemNumbers?, progression?, nameNumber?_eq_ofName? hfield]
    cases field.ofName? name with
    | none => simp
    | some n => simpa [hlast] using run?_eq_some_iff_isProper hfield n n 1
  | stepped span step =>
    have hstep (result : Option Progression) :
        (if 1 ≤ step ∧ step ≤ field.last then result else none) = some p ↔
          1 ≤ step ∧ step ≤ field.last ∧ result = some p := by
      rw [Option.ite_none_right_eq_some, and_assoc]
    cases span with
    | all => exact (hstep _).trans (spanNumbers?_eq_some_iff hfield _ _)
    | point n =>
      rw [progression?, Option.some_inj]
      exact (hstep _).trans (run?_eq_some_iff_isProper hfield _ _ _)
    | range first last => exact (hstep _).trans (spanNumbers?_eq_some_iff hfield _ _)
    | namedRange first last => exact (hstep _).trans (spanNumbers?_eq_some_iff hfield _ _)

end

/-- Where both number alike, the well-formed words are the texts that read as a field. -/
theorem Field.isWord_iff_exists_reads {field : Field} (hfield : field.lowest = field.first)
    {word : List Char} : field.IsWord word ↔ ∃ numbers, field.Reads word numbers := by
  have hitem (item : Item) : item.IsProper field ↔ ∃ p, field.itemNumbers? item = some p := by
    simp only [Item.IsProper, itemNumbers?_eq_some_iff hfield]
  simp only [IsWord, hitem, ← exists_numbers?_iff, Reads]
  constructor
  · rintro ⟨items, hitems, numbers, hnumbers⟩
    exact ⟨numbers, items, hitems, hnumbers⟩
  · rintro ⟨numbers, items, hitems, hnumbers⟩
    exact ⟨items, hitems, numbers, hnumbers⟩

/-- Where both number alike, a word allows the numbers of the field that it reads as. -/
theorem Field.Reads.contain_iff {field : Field} (hfield : field.lowest = field.first)
    {word : List Char} {numbers : Numbers} (h : field.Reads word numbers) {n : Nat} :
    numbers.contain n = true ↔ field.Allows word n := by
  obtain ⟨items, hitems, hnumbers⟩ := h
  rw [allows_iff hitems, Numbers.contain_iff]
  clear hitems
  induction numbers?_eq_some_iff.1 hnumbers with
  | nil => simp
  | @cons item p items numbers hp hrest ih =>
    have hp := ((itemNumbers?_eq_some_iff hfield).1 hp).1
    simp [hp, ih (numbers?_eq_some_iff.2 hrest)]

end CrontabRenderer.Schedule
