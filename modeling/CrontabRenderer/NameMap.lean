/-!
# Maps from names

A map is the list of its entries in ascending order of their names, by code point. Two maps with
the same values are therefore equal (`ext`), and their entries are listed in one order only.
-/
namespace CrontabRenderer

structure NameMap (α : Type) where
  entries : List (String × α)
  sorted : entries.Pairwise fun a b => a.1 < b.1

namespace NameMap

variable {α β : Type}

def empty : NameMap α := ⟨[], .nil⟩

instance : EmptyCollection (NameMap α) := ⟨empty⟩

instance : Inhabited (NameMap α) := ⟨empty⟩

instance [BEq α] : BEq (NameMap α) := ⟨fun m n => m.entries == n.entries⟩

/-- The value of the first entry with that name. -/
def findIn? (name : String) : List (String × α) → Option α
  | [] => none
  | entry :: rest => if entry.1 = name then some entry.2 else findIn? name rest

def find? (m : NameMap α) (name : String) : Option α := findIn? name m.entries

def contains (m : NameMap α) (name : String) : Bool := (m.find? name).isSome

def names (m : NameMap α) : List String := m.entries.map (·.1)

def size (m : NameMap α) : Nat := m.entries.length

def isEmpty (m : NameMap α) : Bool := m.entries.isEmpty

/-- Puts an entry in its place in a sorted list, in place of an entry with the same name. -/
def insertEntry (name : String) (value : α) : List (String × α) → List (String × α)
  | [] => [(name, value)]
  | entry :: rest =>
    if name < entry.1 then (name, value) :: entry :: rest
    else if entry.1 < name then entry :: insertEntry name value rest
    else (name, value) :: rest

theorem mem_insertEntry {name : String} {value : α} {entry : String × α}
    {entries : List (String × α)} (h : entry ∈ insertEntry name value entries) :
    entry = (name, value) ∨ entry ∈ entries := by
  induction entries with
  | nil => simpa [insertEntry] using h
  | cons first rest ih =>
    simp only [insertEntry] at h
    split at h
    · simpa using h
    · split at h
      · rcases List.mem_cons.1 h with rfl | h
        · simp
        · rcases ih h with rfl | h <;> simp [*]
      · rcases List.mem_cons.1 h with rfl | h <;> simp [*]

theorem insertEntry_sorted {name : String} {value : α} {entries : List (String × α)}
    (h : entries.Pairwise fun a b => a.1 < b.1) :
    (insertEntry name value entries).Pairwise fun a b => a.1 < b.1 := by
  induction entries with
  | nil => simp [insertEntry]
  | cons first rest ih =>
    obtain ⟨hfirst, hrest⟩ := List.pairwise_cons.1 h
    simp only [insertEntry]
    split
    · rename_i before
      refine List.pairwise_cons.2 ⟨fun entry hentry => ?_, h⟩
      rcases List.mem_cons.1 hentry with rfl | hentry
      · exact before
      · exact String.lt_trans before (hfirst entry hentry)
    · split
      · rename_i after
        refine List.pairwise_cons.2 ⟨fun entry hentry => ?_, ih hrest⟩
        rcases mem_insertEntry hentry with rfl | hentry
        · exact after
        · exact hfirst entry hentry
      · rename_i notBefore notAfter
        have same : name = first.1 := String.le_antisymm notAfter notBefore
        exact List.pairwise_cons.2 ⟨fun entry hentry => same ▸ hfirst entry hentry, hrest⟩

def insert (m : NameMap α) (name : String) (value : α) : NameMap α :=
  ⟨insertEntry name value m.entries, insertEntry_sorted m.sorted⟩

/-- A later entry takes the place of an earlier one with the same name. -/
def insertAll (m : NameMap α) (entries : List (String × α)) : NameMap α :=
  entries.foldl (fun m entry => m.insert entry.1 entry.2) m

def ofList (entries : List (String × α)) : NameMap α := insertAll ∅ entries

/-- Changes the values and keeps the names. -/
def map (f : α → β) (m : NameMap α) : NameMap β :=
  ⟨m.entries.map fun entry => (entry.1, f entry.2), List.pairwise_map.2 m.sorted⟩

@[simp] theorem find?_empty (name : String) : (∅ : NameMap α).find? name = none := rfl

theorem findIn?_insertEntry (name other : String) (value : α)
    (entries : List (String × α)) :
    findIn? other (insertEntry name value entries) =
      if other = name then some value else findIn? other entries := by
  induction entries with
  | nil => simp [insertEntry, findIn?, eq_comm]
  | cons first rest ih =>
    simp only [insertEntry]
    split
    · simp [findIn?, eq_comm]
    · split
      · rename_i after
        have differ : first.1 ≠ name := fun h => String.lt_irrefl _ (h ▸ after)
        by_cases h : first.1 = other
        · simp [findIn?, h, h ▸ differ]
        · simp [findIn?, h, ih]
      · rename_i notBefore notAfter
        have same : name = first.1 := String.le_antisymm notAfter notBefore
        subst same
        simp only [findIn?, eq_comm]
        split <;> rfl

@[simp] theorem find?_insert (m : NameMap α) (name other : String) (value : α) :
    (m.insert name value).find? other = if other = name then some value else m.find? other :=
  findIn?_insertEntry name other value m.entries

theorem find?_insert_self (m : NameMap α) (name : String) (value : α) :
    (m.insert name value).find? name = some value := by simp

theorem findIn?_map (f : α → β) (name : String) (entries : List (String × α)) :
    findIn? name (entries.map fun entry => (entry.1, f entry.2)) =
      (findIn? name entries).map f := by
  induction entries with
  | nil => rfl
  | cons first rest ih =>
    simp only [List.map_cons, findIn?, ih]
    split <;> rfl

@[simp] theorem find?_map (f : α → β) (m : NameMap α) (name : String) :
    (m.map f).find? name = (m.find? name).map f :=
  findIn?_map f name m.entries

theorem findIn?_isSome {name : String} {entries : List (String × α)} :
    (findIn? name entries).isSome = true ↔ ∃ entry ∈ entries, entry.1 = name := by
  induction entries with
  | nil => simp [findIn?]
  | cons first rest ih =>
    by_cases h : first.1 = name
    · simp [findIn?, h]
    · simp [findIn?, h, ih]

theorem findIn?_eq_none {name : String} {entries : List (String × α)}
    (h : ∀ entry ∈ entries, name < entry.1) : findIn? name entries = none := by
  rw [← Option.not_isSome_iff_eq_none, findIn?_isSome]
  rintro ⟨entry, hentry, heq⟩
  exact String.lt_irrefl _ (heq ▸ h entry hentry)

theorem find?_insertAll {m : NameMap α} {entries : List (String × α)}
    (h : entries.Pairwise fun a b => a.1 < b.1) (name : String) :
    (m.insertAll entries).find? name = (findIn? name entries).or (m.find? name) := by
  induction entries generalizing m with
  | nil => rfl
  | cons first rest ih =>
    obtain ⟨hfirst, hrest⟩ := List.pairwise_cons.1 h
    have hcons : m.insertAll (first :: rest) = (m.insert first.1 first.2).insertAll rest := rfl
    rw [hcons, ih hrest, find?_insert, findIn?]
    by_cases hname : first.1 = name
    · have hnone : findIn? name rest = none := findIn?_eq_none (hname ▸ hfirst)
      simp [hname, hnone]
    · simp [hname, Ne.symm hname]

/-- A map inserted into another takes the place of it where it has a value. -/
theorem find?_insertAll_entries (m n : NameMap α) (name : String) :
    (m.insertAll n.entries).find? name = (n.find? name).or (m.find? name) :=
  find?_insertAll n.sorted name

/-- The smallest name of a map is the first one, so maps with the same values agree entry by
entry. -/
theorem entries_ext {xs ys : List (String × α)} (hx : xs.Pairwise fun a b => a.1 < b.1)
    (hy : ys.Pairwise fun a b => a.1 < b.1) (h : ∀ name, findIn? name xs = findIn? name ys) :
    xs = ys := by
  induction xs generalizing ys with
  | nil =>
    cases ys with
    | nil => rfl
    | cons y ys => have := h y.1; simp [findIn?] at this
  | cons x xs ih =>
    cases ys with
    | nil => have := h x.1; simp [findIn?] at this
    | cons y ys =>
      obtain ⟨hx1, hx⟩ := List.pairwise_cons.1 hx
      obtain ⟨hy1, hy⟩ := List.pairwise_cons.1 hy
      have same : x.1 = y.1 := by
        by_cases hxy : x.1 = y.1
        · exact hxy
        have inYs : (findIn? x.1 ys).isSome = true := by
          have := h x.1
          simp only [findIn?, if_true, Ne.symm hxy, if_false] at this
          simp [← this]
        have inXs : (findIn? y.1 xs).isSome = true := by
          have := h y.1
          simp only [findIn?, if_true, hxy, if_false] at this
          simp [this]
        obtain ⟨a, ha, hax⟩ := findIn?_isSome.1 inYs
        obtain ⟨b, hb, hby⟩ := findIn?_isSome.1 inXs
        exact absurd (String.lt_trans (hax ▸ hy1 a ha) (hby ▸ hx1 b hb)) (String.lt_irrefl _)
      have value : x.2 = y.2 := by
        have := h x.1
        simpa [findIn?, same] using this
      refine List.cons_eq_cons.2 ⟨Prod.ext same value, ih hx hy fun name => ?_⟩
      by_cases hname : x.1 = name
      · have notX : findIn? name xs = none := findIn?_eq_none (hname ▸ hx1)
        have notY : findIn? name ys = none := findIn?_eq_none ((same.symm.trans hname) ▸ hy1)
        rw [notX, notY]
      · have := h name
        simpa [findIn?, hname, same ▸ hname] using this

@[ext] theorem ext {m n : NameMap α} (h : ∀ name, m.find? name = n.find? name) : m = n := by
  obtain ⟨xs, hx⟩ := m
  obtain ⟨ys, hy⟩ := n
  have : xs = ys := entries_ext hx hy h
  subst this
  rfl

theorem ofList_entries (m : NameMap α) : ofList m.entries = m := by
  ext1 name
  rw [ofList, find?_insertAll_entries, find?_empty, Option.or_none]

end NameMap

end CrontabRenderer
