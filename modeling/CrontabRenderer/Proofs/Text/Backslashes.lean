import CrontabRenderer.Text.Blank
import Mathlib.Algebra.Ring.Parity
import Mathlib.Data.List.DropRight
import Mathlib.Tactic.Common

/-!
# Marks behind backslashes

To a reader whom the backslash tells to take the next character as it is, a mark is escaped if it
stands behind an odd number of backslashes. Writing a backslash in front of every mark escapes just
those that were not escaped before (`allEscaped_replaceChar_iff`).
-/
namespace CrontabRenderer.Text

/-- How many backslashes the text ends with. -/
def finalBackslashes (s : List Char) : Nat := (s.rtakeWhile (· = '\\')).length

/-- The text in front of every such mark has the property. -/
def BeforeEach (mark : Char) (P : List Char → Prop) (s : List Char) : Prop :=
  ∀ front back, s = front ++ mark :: back → P front

def AllEscaped (mark : Char) (s : List Char) : Prop :=
  BeforeEach mark (fun front => Odd (finalBackslashes front)) s

def NoneEscaped (mark : Char) (s : List Char) : Prop :=
  BeforeEach mark (fun front => Even (finalBackslashes front)) s

@[simp] theorem finalBackslashes_nil : finalBackslashes [] = 0 := rfl

@[simp] theorem finalBackslashes_append_singleton (s : List Char) (c : Char) :
    finalBackslashes (s ++ [c]) = if c = '\\' then finalBackslashes s + 1 else 0 := by
  rw [finalBackslashes, List.rtakeWhile_concat]
  by_cases hc : c = '\\' <;> simp [hc, finalBackslashes]

theorem beforeEach_nil (mark : Char) (P : List Char → Prop) : BeforeEach mark P [] := by
  intro front back h
  simp at h

theorem beforeEach_append_singleton {mark c : Char} {P : List Char → Prop} {s : List Char} :
    BeforeEach mark P (s ++ [c]) ↔ BeforeEach mark P s ∧ (c = mark → P s) := by
  constructor
  · intro h
    refine ⟨fun front back hs => h front (back ++ [c]) (by simp [hs]), fun hc => h s [] (by simp [hc])⟩
  · rintro ⟨hs, hc⟩ front back heq
    rcases List.eq_nil_or_concat back with rfl | ⟨back, d, rfl⟩
    · obtain ⟨rfl, hlast⟩ := List.append_inj' heq rfl
      exact hc (List.cons.inj hlast).1
    · have hsplit : s ++ [c] = (front ++ mark :: back) ++ [d] := by simpa using heq
      exact hs front back (List.append_inj' hsplit rfl).1

theorem BeforeEach.of_append {mark : Char} {P : List Char → Prop} {s t : List Char}
    (h : BeforeEach mark P (s ++ t)) : BeforeEach mark P s := by
  rintro front back rfl
  exact h front (back ++ t) (by simp)

/-- A text in which some mark stands behind the wrong text has a first such mark. -/
theorem exists_first_of_not_beforeEach {mark : Char} {P : List Char → Prop} {s : List Char}
    (h : ¬BeforeEach mark P s) :
    ∃ front back, s = front ++ mark :: back ∧ ¬P front ∧ BeforeEach mark P front := by
  induction s using List.reverseRecOn with
  | nil => exact absurd (beforeEach_nil mark P) h
  | append_singleton s c ih =>
    by_cases hs : BeforeEach mark P s
    · obtain ⟨rfl, hP⟩ : c = mark ∧ ¬P s := by
        simpa [beforeEach_append_singleton, hs] using h
      exact ⟨s, [], rfl, hP, hs⟩
    · obtain ⟨front, back, rfl, hfirst⟩ := ih hs
      exact ⟨front, back ++ [c], by simp, hfirst⟩

instance (mark : Char) (P : List Char → Prop) [DecidablePred P] (s : List Char) :
    Decidable (BeforeEach mark P s) :=
  decidable_of_iff (∀ i < s.length, s[i]? = some mark → P (s.take i)) <| by
    constructor
    · rintro h front back rfl
      simpa using h front.length (by simp) (by simp)
    · intro h i hi hmark
      refine h (s.take i) (s.drop (i + 1)) ?_
      obtain ⟨_, hget⟩ := List.getElem?_eq_some_iff.1 hmark
      rw [← hget, List.getElem_cons_drop, List.take_append_drop]

instance (mark : Char) (s : List Char) : Decidable (AllEscaped mark s) :=
  inferInstanceAs (Decidable (BeforeEach ..))

instance (mark : Char) (s : List Char) : Decidable (NoneEscaped mark s) :=
  inferInstanceAs (Decidable (BeforeEach ..))

theorem replaceChar_append_cons (mark : Char) (replacement front : List Char) (c : Char)
    (back : List Char) :
    replaceChar mark replacement (front ++ c :: back) =
      replaceChar mark replacement front ++
        ((if c = mark then replacement else [c]) ++ replaceChar mark replacement back) := by
  simp [replaceChar]

theorem replaceChar_append_mark (mark : Char) (s : List Char) :
    replaceChar mark ['\\', mark] (s ++ [mark]) =
      replaceChar mark ['\\', mark] s ++ ['\\'] ++ [mark] := by
  rw [replaceChar_append_cons, if_pos rfl]
  simp

theorem replaceChar_append_of_ne {mark c : Char} (hc : c ≠ mark) (replacement s : List Char) :
    replaceChar mark replacement (s ++ [c]) = replaceChar mark replacement s ++ [c] := by
  rw [replaceChar_append_cons, if_neg hc]
  simp

theorem length_replaceChar (mark : Char) (replacement s : List Char) :
    (replaceChar mark replacement s).length + s.count mark =
      s.length + s.count mark * replacement.length := by
  induction s with
  | nil => simp
  | cons c s ih =>
    have hcons : replaceChar mark replacement (c :: s) =
        (if c = mark then replacement else [c]) ++ replaceChar mark replacement s :=
      replaceChar_append_cons mark replacement [] c s
    rw [hcons, List.length_append, List.length_cons]
    by_cases hc : c = mark
    · rw [if_pos hc, hc, List.count_cons_self, Nat.succ_mul]
      omega
    · rw [if_neg hc, List.count_cons_of_ne hc, List.length_singleton]
      omega

/-- With a replacement for each mark a text does not get shorter. -/
theorem length_le_length_replaceChar {mark : Char} {replacement : List Char} (h : replacement ≠ [])
    (s : List Char) : s.length ≤ (replaceChar mark replacement s).length := by
  have hlength := length_replaceChar mark replacement s
  have hcount : s.count mark ≤ s.count mark * replacement.length :=
    Nat.le_mul_of_pos_right _ (List.length_pos_iff.2 h)
  omega

/-- A replacement that is longer than the mark leaves just the texts without the mark alone. -/
theorem replaceChar_eq_self_iff {mark : Char} {replacement s : List Char}
    (h : 1 < replacement.length) : replaceChar mark replacement s = s ↔ mark ∉ s := by
  constructor
  · intro hself
    have hlength := length_replaceChar mark replacement s
    rw [hself, Nat.add_left_cancel_iff] at hlength
    rw [← List.count_eq_zero]
    by_contra hcount
    exact h.ne (Nat.eq_of_mul_eq_mul_left (Nat.pos_of_ne_zero hcount) (by omega))
  · intro hmark
    have hkeep : ∀ c ∈ s, (if c = mark then replacement else [c]) = [c] := by
      intro c hc
      rw [if_neg]
      rintro rfl
      exact hmark hc
    rw [replaceChar, List.flatMap_congr hkeep, List.flatMap_singleton']

/-- The backslashes at the end stay as they are. -/
theorem finalBackslashes_replaceChar {mark : Char} (hmark : mark ≠ '\\') (s : List Char) :
    finalBackslashes (replaceChar mark ['\\', mark] s) = finalBackslashes s := by
  induction s using List.reverseRecOn with
  | nil => rfl
  | append_singleton s c ih =>
    rw [finalBackslashes_append_singleton]
    by_cases hc : c = mark
    · subst hc
      rw [replaceChar_append_mark, finalBackslashes_append_singleton, if_neg hmark, if_neg hmark]
    · rw [replaceChar_append_of_ne hc, finalBackslashes_append_singleton, ih]

/-- A backslash in front of every mark escapes them all just if none was escaped before. -/
theorem allEscaped_replaceChar_iff {mark : Char} (hmark : mark ≠ '\\') {s : List Char} :
    AllEscaped mark (replaceChar mark ['\\', mark] s) ↔ NoneEscaped mark s := by
  unfold AllEscaped NoneEscaped
  induction s using List.reverseRecOn with
  | nil => exact iff_of_true (beforeEach_nil _ _) (beforeEach_nil _ _)
  | append_singleton s c ih =>
    rw [beforeEach_append_singleton, ← ih]
    by_cases hc : c = mark
    · subst hc
      have hodd : Odd (finalBackslashes (replaceChar c ['\\', c] s ++ ['\\'])) ↔
          Even (finalBackslashes s) := by
        rw [finalBackslashes_append_singleton, if_pos rfl, finalBackslashes_replaceChar hmark,
          Nat.odd_add_one, Nat.not_odd_iff_even]
      rw [replaceChar_append_mark, beforeEach_append_singleton, beforeEach_append_singleton, hodd]
      simp [hmark.symm]
    · rw [replaceChar_append_of_ne hc, beforeEach_append_singleton]
      simp [hc]

end CrontabRenderer.Text
