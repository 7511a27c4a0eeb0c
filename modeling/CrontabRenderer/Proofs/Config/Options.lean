import CrontabRenderer.Config.FromYaml
import CrontabRenderer.Proofs.Number.Spelling
import CrontabRenderer.Proofs.Results

/-!
# Maps of options in YAML

What a map of options has for a name is read from the last value that the document gives the name
(`Yaml.Decode.find?_nameMap`).
-/
namespace CrontabRenderer

namespace NameMap

variable {α : Type} {name : String} {value : α}

theorem find?_insertAll_of_notMem (m : NameMap α) {entries : List (String × α)}
    (h : name ∉ entries.map (·.1)) : (m.insertAll entries).find? name = m.find? name := by
  induction entries generalizing m with
  | nil => rfl
  | cons entry entries ih =>
    rw [List.map_cons, List.mem_cons, not_or] at h
    have hinsert : (m.insert entry.1 entry.2).find? name = m.find? name := by
      rw [find?_insert, if_neg h.1]
    rw [← hinsert]
    exact ih (m.insert entry.1 entry.2) h.2

theorem find?_ofList_last {before after : List (String × α)} (h : name ∉ after.map (·.1)) :
    (ofList (before ++ (name, value) :: after)).find? name = some value := by
  have hlast : ofList (before ++ (name, value) :: after) =
      ((ofList before).insert name value).insertAll after := by
    simp [ofList, insertAll]
  rw [hlast, find?_insertAll_of_notMem _ h, find?_insert_self]

end NameMap

namespace Yaml.Decode

variable {α β : Type} {document : Document} {state state' : Nat}

theorem bind_eq_ok_iff {x : Decode α} {f : α → Decode β} {y : β} :
    (x >>= f) document state = .ok (y, state') ↔
      ∃ a middle, x document state = .ok (a, middle) ∧ f a document middle = .ok (y, state') := by
  have hbind : (x >>= f) document state =
      x document state >>= fun result => f result.1 document result.2 := rfl
  rw [hbind, CrontabRenderer.bind_eq_ok_iff, Prod.exists]

theorem pure_eq_ok_iff {x y : α} :
    (pure x : Decode α) document state = .ok (y, state') ↔ x = y ∧ state = state' := by
  have hpure : (pure x : Decode α) document state = .ok (x, state) := rfl
  rw [hpure, Except.ok.injEq, Prod.mk.injEq]

/-- Reads the value of a member and keeps the name. -/
def named (read : Part → Decode α) (member : String × Part) : Decode (String × α) := do
  return (member.1, ← read member.2)

theorem named_eq_ok_iff {read : Part → Decode α} {member : String × Part} {entry : String × α} :
    named read member document state = .ok (entry, state') ↔
      member.1 = entry.1 ∧ read member.2 document state = .ok (entry.2, state') := by
  obtain ⟨name, value⟩ := entry
  rw [named, bind_eq_ok_iff]
  constructor
  · rintro ⟨value', middle, hread, h⟩
    obtain ⟨hentry, rfl⟩ := pure_eq_ok_iff.1 h
    obtain ⟨hname, rfl⟩ := Prod.mk.inj hentry
    exact ⟨hname, hread⟩
  · rintro ⟨rfl, hread⟩
    exact ⟨value, state', hread, pure_eq_ok_iff.2 ⟨rfl, rfl⟩⟩

theorem names_of_mapM {read : Part → Decode α} {members : List (String × Part)}
    {entries : List (String × α)}
    (h : members.mapM (named read) document state = .ok (entries, state')) :
    entries.map (·.1) = members.map (·.1) := by
  induction members generalizing entries state with
  | nil =>
    rw [List.mapM_nil, pure_eq_ok_iff] at h
    rw [← h.1]
    rfl
  | cons member members ih =>
    rw [List.mapM_cons, bind_eq_ok_iff] at h
    obtain ⟨entry, middle, hentry, h⟩ := h
    obtain ⟨rest, _, hrest, h⟩ := bind_eq_ok_iff.1 h
    obtain ⟨rfl, rfl⟩ := pure_eq_ok_iff.1 h
    rw [List.map_cons, List.map_cons, ih hrest, (named_eq_ok_iff.1 hentry).1]

/-- The last member with a name gives the value. -/
theorem find?_nameMap {read : Part → Decode α} {part value : Part} {name : String}
    {before after : List (String × Part)} {map : NameMap α} {middle : Nat}
    (hmembers : members part document state = .ok (before ++ (name, value) :: after, middle))
    (hlast : name ∉ after.map (·.1))
    (hmap : Config.yamlFormat.nameMap read part document state = .ok (map, state')) :
    ∃ a start stop, read value document start = .ok (a, stop) ∧ map.find? name = some a := by
  obtain ⟨read', middle', hread', hmap⟩ := bind_eq_ok_iff.1 hmap
  have hsame : members part document state = .ok (read', middle') := hread'
  rw [hmembers] at hsame
  cases hsame
  obtain ⟨entries, end', hentries, hmap⟩ := bind_eq_ok_iff.1 hmap
  obtain ⟨rfl, rfl⟩ := pure_eq_ok_iff.1 hmap
  have hentries : (before ++ (name, value) :: after).mapM (named read) document middle =
      .ok (entries, end') := hentries
  rw [List.mapM_append, bind_eq_ok_iff] at hentries
  obtain ⟨front, start, -, hentries⟩ := hentries
  obtain ⟨back, _, hback, hentries⟩ := bind_eq_ok_iff.1 hentries
  obtain ⟨rfl, rfl⟩ := pure_eq_ok_iff.1 hentries
  rw [List.mapM_cons, bind_eq_ok_iff] at hback
  obtain ⟨⟨name', a⟩, stop, hentry, hback⟩ := hback
  obtain ⟨rest, _, hrest, hback⟩ := bind_eq_ok_iff.1 hback
  obtain ⟨rfl, rfl⟩ := pure_eq_ok_iff.1 hback
  obtain ⟨rfl, hvalue⟩ := named_eq_ok_iff.1 hentry
  refine ⟨a, start, stop, hvalue, NameMap.find?_ofList_last ?_⟩
  rwa [names_of_mapM hrest]

/-- The value of a scalar does not depend on how many collections may be in it. -/
theorem value_scalar (room : Nat) (scalar : Scalar) :
    value room (.scalar scalar) document state =
      (liftM (Value.ofScalar scalar) : Decode Value) document state := by
  -- the recursion on `room` has no equations, so its body is opened once the room is known
  cases room with
  | zero =>
    delta value
    rfl
  | succ room =>
    delta value
    rfl

/-- A plain scalar without a tag is the option that its text reads as. -/
theorem option_plain {s : String} {value : Value} {n : Number} (hread : Value.ofPlain s = .ok value)
    (hnumber : value.number? = some n) (room : Nat) :
    option ⟨.scalar ⟨none, s, .plain⟩, room⟩ document state = .ok (.number n, state) := by
  have hscalar : Value.ofScalar ⟨none, s, .plain⟩ = .ok value := hread
  have hvalue : Decode.value room (.scalar ⟨none, s, .plain⟩) document state =
      .ok (value, state) := by
    rw [value_scalar, hscalar]
    rfl
  refine bind_eq_ok_iff.2 ⟨value, state, hvalue, ?_⟩
  rcases Value.number?_eq_some_iff.1 hnumber with ⟨written, rfl, rfl⟩ | ⟨x, rfl, rfl⟩
  · rfl
  · rfl

end Yaml.Decode

end CrontabRenderer
