import CrontabRenderer.Proofs.Text.Words

/-!
# Squished texts

In a squished text every blank is a space between two words (`IsSquished`). These are the texts that
squishing leaves as they are (`isSquished_iff`), and each text has its words in common with one of
them (`eq_squish_iff`), so two texts are squished alike just if their words are the same
(`squish_eq_iff`).
-/
namespace CrontabRenderer.Text

/-- Every blank is a space, with a character that is no blank directly on both sides. -/
def IsSquished (s : List Char) : Prop :=
  ∀ front b back, s = front ++ b :: back → isBlank b = true →
    b = ' ' ∧ (∃ c ∈ front.getLast?, isBlank c = false) ∧ ∃ c ∈ back.head?, isBlank c = false

/-! ## The words of a squished text -/

theorem wordsOf_blanks_append {blanks : List Char} (hblanks : ∀ c ∈ blanks, isBlank c = true)
    (s : List Char) : wordsOf (blanks ++ s) = wordsOf s := by
  induction blanks with
  | nil => rfl
  | cons b blanks ih =>
    obtain ⟨hb, hblanks⟩ := List.forall_mem_cons.1 hblanks
    rw [List.cons_append, wordsOf_cons_of_isBlank hb, ih hblanks]

theorem wordsOf_append_blanks {blanks : List Char} (hne : blanks ≠ [])
    (hblanks : ∀ c ∈ blanks, isBlank c = true) (s t : List Char) :
    wordsOf (s ++ (blanks ++ t)) = wordsOf s ++ wordsOf t := by
  obtain ⟨b, rest, rfl⟩ := List.exists_cons_of_ne_nil hne
  obtain ⟨hb, hrest⟩ := List.forall_mem_cons.1 hblanks
  rw [List.cons_append, wordsOf_append_cons hb, wordsOf_blanks_append hrest]

theorem wordsOf_eq_singleton {word : List Char} (hne : word ≠ [])
    (hword : ∀ c ∈ word, isBlank c = false) : wordsOf word = [word] := by
  induction word with
  | nil => exact absurd rfl hne
  | cons c word ih =>
    obtain ⟨hc, hword⟩ := List.forall_mem_cons.1 hword
    rw [wordsOf_cons_of_not_isBlank hc]
    cases word with
    | nil => rfl
    | cons d word =>
      rw [ih (by simp) hword]
      simp [hword d]

theorem intercalate_append {α : Type} (separator : List α) {pieces others : List (List α)}
    (hpieces : pieces ≠ []) (hothers : others ≠ []) :
    separator.intercalate (pieces ++ others) =
      separator.intercalate pieces ++ (separator ++ separator.intercalate others) := by
  induction pieces with
  | nil => exact absurd rfl hpieces
  | cons piece pieces ih =>
    rw [List.cons_append, List.intercalate_cons_of_ne_nil (by simp [hothers])]
    by_cases hlast : pieces = []
    · rw [hlast, List.nil_append, List.intercalate_singleton, List.append_assoc]
    · rw [ih hlast, List.intercalate_cons_of_ne_nil hlast]
      simp only [List.append_assoc]

theorem wordsOf_intercalate {pieces : List (List Char)}
    (h : ∀ piece ∈ pieces, piece ≠ [] ∧ ∀ c ∈ piece, isBlank c = false) :
    wordsOf ([' '].intercalate pieces) = pieces := by
  induction pieces with
  | nil => rfl
  | cons piece pieces ih =>
    obtain ⟨⟨hne, hpiece⟩, hpieces⟩ := List.forall_mem_cons.1 h
    by_cases hlast : pieces = []
    · rw [hlast, List.intercalate_singleton, wordsOf_eq_singleton hne hpiece]
    · rw [List.intercalate_cons_of_ne_nil hlast, List.append_assoc, List.singleton_append,
        wordsOf_append_cons (by decide), wordsOf_eq_singleton hne hpiece, ih hpieces,
        List.singleton_append]

/-- Squishing keeps the words. -/
theorem wordsOf_squishChars (s : List Char) : wordsOf (squishChars s) = wordsOf s :=
  wordsOf_intercalate fun _ hword => ⟨ne_nil_of_mem_wordsOf hword, not_isBlank_of_mem_wordsOf hword⟩

theorem squishChars_eq_iff {s t : List Char} :
    squishChars s = squishChars t ↔ wordsOf s = wordsOf t := by
  constructor
  · intro h
    rw [← wordsOf_squishChars s, h, wordsOf_squishChars]
  · intro h
    rw [squishChars, h, squishChars]

/-- A run of blanks between two texts with words becomes a space. -/
theorem squishChars_append_blanks {blanks s t : List Char} (hne : blanks ≠ [])
    (hblanks : ∀ c ∈ blanks, isBlank c = true) (hs : wordsOf s ≠ []) (ht : wordsOf t ≠ []) :
    squishChars (s ++ (blanks ++ t)) = squishChars s ++ ([' '] ++ squishChars t) := by
  rw [squishChars, wordsOf_append_blanks hne hblanks, intercalate_append [' '] hs ht, squishChars,
    squishChars]

/-! ## The form of a squished text -/

theorem isSquished_of_not_isBlank {s : List Char} (h : ∀ c ∈ s, isBlank c = false) :
    IsSquished s := by
  rintro front b back rfl hb
  rw [h b (by simp)] at hb
  cases hb

theorem IsSquished.of_mem_head? {s : List Char} (h : IsSquished s) :
    ∀ c ∈ s.head?, isBlank c = false := by
  intro c hc
  obtain ⟨rest, rfl⟩ := List.head?_eq_some_iff.1 hc
  by_contra hblank
  obtain ⟨-, ⟨d, hd, -⟩, -⟩ := h [] c rest rfl (by simpa using hblank)
  cases hd

theorem IsSquished.of_mem_getLast? {s : List Char} (h : IsSquished s) :
    ∀ c ∈ s.getLast?, isBlank c = false := by
  intro c hc
  obtain ⟨front, rfl⟩ := List.getLast?_eq_some_iff.1 hc
  by_contra hblank
  obtain ⟨-, -, d, hd, -⟩ := h front c [] rfl (by simpa using hblank)
  cases hd

/-- A space between two squished texts has characters that are no blanks on both sides. -/
theorem IsSquished.append_space {s t : List Char} (hs : IsSquished s) (ht : IsSquished t)
    (hsne : s ≠ []) (htne : t ≠ []) : IsSquished (s ++ ' ' :: t) := by
  have hlast : ∃ c ∈ s.getLast?, isBlank c = false :=
    ⟨_, List.getLast?_eq_some_getLast hsne, hs.of_mem_getLast? _ (List.getLast?_eq_some_getLast hsne)⟩
  have hhead : ∃ c ∈ t.head?, isBlank c = false :=
    ⟨_, List.head?_eq_some_head htne, ht.of_mem_head? _ (List.head?_eq_some_head htne)⟩
  intro front b back hsplit hb
  rcases List.append_eq_append_iff.1 hsplit with ⟨inner, rfl, hinner⟩ | ⟨inner, rfl, hinner⟩
  · cases inner with
    | nil =>
      cases hinner
      exact ⟨rfl, by simpa using hlast, hhead⟩
    | cons d inner =>
      obtain ⟨rfl, rfl⟩ := List.cons.inj hinner
      obtain ⟨hspace, ⟨c, hc, hblank⟩, hback⟩ := ht inner b back rfl hb
      obtain ⟨inner, rfl⟩ := List.getLast?_eq_some_iff.1 hc
      have hfront : s ++ ' ' :: (inner ++ [c]) = (s ++ ' ' :: inner) ++ [c] := by simp
      exact ⟨hspace, ⟨c, by rw [hfront, List.getLast?_concat]; rfl, hblank⟩, hback⟩
  · cases inner with
    | nil =>
      cases hinner
      exact ⟨rfl, by simpa using hlast, hhead⟩
    | cons d inner =>
      obtain ⟨rfl, rfl⟩ := List.cons.inj hinner
      obtain ⟨hspace, hfront, c, hc, hblank⟩ := hs front b inner rfl hb
      obtain ⟨inner, rfl⟩ := List.head?_eq_some_iff.1 hc
      exact ⟨hspace, hfront, c, rfl, hblank⟩

theorem isSquished_intercalate {pieces : List (List Char)}
    (h : ∀ piece ∈ pieces, piece ≠ [] ∧ ∀ c ∈ piece, isBlank c = false) :
    IsSquished ([' '].intercalate pieces) := by
  induction pieces with
  | nil => exact isSquished_of_not_isBlank (by simp)
  | cons piece pieces ih =>
    obtain ⟨⟨hne, hpiece⟩, hpieces⟩ := List.forall_mem_cons.1 h
    by_cases hlast : pieces = []
    · rw [hlast, List.intercalate_singleton]
      exact isSquished_of_not_isBlank hpiece
    · rw [List.intercalate_cons_of_ne_nil hlast, List.append_assoc, List.singleton_append]
      apply (isSquished_of_not_isBlank hpiece).append_space (ih hpieces) hne
      intro hnil
      have hwords := wordsOf_intercalate hpieces
      rw [hnil] at hwords
      exact hlast hwords.symm

theorem isSquished_squishChars (s : List Char) : IsSquished (squishChars s) :=
  isSquished_intercalate fun _ hword => ⟨ne_nil_of_mem_wordsOf hword, not_isBlank_of_mem_wordsOf hword⟩

/-- There is nothing to collapse where every blank is a space that no other blank follows. -/
theorem collapse_eq_self {s : List Char} (h : ∀ front b back, s = front ++ b :: back →
    isBlank b = true → b = ' ' ∧ ∃ c ∈ back.head?, isBlank c = false) : collapse s = s := by
  induction s with
  | nil => rfl
  | cons c s ih =>
    have hrest := ih fun front b back hs => h (c :: front) b back (congrArg (c :: ·) hs)
    rw [collapse, hrest]
    cases hc : isBlank c with
    | false => simp
    | true =>
      obtain ⟨rfl, d, hd, hblank⟩ := h [] c s rfl hc
      simp [Option.mem_def.1 hd, hblank]

theorem IsSquished.collapse_eq_self {s : List Char} (h : IsSquished s) : collapse s = s :=
  Text.collapse_eq_self fun front b back hs hb => ⟨(h front b back hs hb).1, (h front b back hs hb).2.2⟩

/-- The squished texts are those that squishing leaves as they are. -/
theorem isSquished_iff {s : List Char} : IsSquished s ↔ squishChars s = s := by
  constructor
  · intro h
    rw [squishChars_eq_collapse, h.collapse_eq_self]
    · cases hhead : s.head? with
      | none => rfl
      | some c => exact h.of_mem_head? c hhead
    · cases hlast : s.getLast? with
      | none => rfl
      | some c => exact h.of_mem_getLast? c hlast
  · intro h
    rw [← h]
    exact isSquished_squishChars s

/-- Of the texts with the same words just one is squished. -/
theorem eq_squishChars_iff {s t : List Char} :
    t = squishChars s ↔ wordsOf t = wordsOf s ∧ IsSquished t := by
  constructor
  · rintro rfl
    exact ⟨wordsOf_squishChars s, isSquished_squishChars s⟩
  · rintro ⟨hwords, hsquished⟩
    rw [← squishChars_eq_iff.2 hwords, isSquished_iff.1 hsquished]

/-! ## Squished strings -/

variable {s t : String}

theorem words_eq_iff : words s = words t ↔ wordsOf s.toList = wordsOf t.toList :=
  (List.map_injective_iff.2 fun _ _ => String.ofList_injective).eq_iff

theorem eq_squish_iff : t = squish s ↔ words t = words s ∧ IsSquished t.toList := by
  rw [words_eq_iff, ← eq_squishChars_iff, squish, ← String.toList_inj, String.toList_ofList]

theorem squish_eq_iff : squish s = squish t ↔ words s = words t := by
  rw [words_eq_iff, ← squishChars_eq_iff, squish, squish, String.ofList_inj]

theorem squish_squish (s : String) : squish (squish s) = squish s :=
  squish_eq_iff.2 (eq_squish_iff.1 rfl).1

theorem squish_append_blanks {blanks : String} (hne : blanks ≠ "")
    (hblanks : ∀ c ∈ blanks.toList, isBlank c = true) (hs : words s ≠ []) (ht : words t ≠ []) :
    squish (s ++ blanks ++ t) = squish s ++ " " ++ squish t := by
  have hchars : squishChars (s.toList ++ (blanks.toList ++ t.toList)) =
      squishChars s.toList ++ ([' '] ++ squishChars t.toList) :=
    squishChars_append_blanks (by simpa using hne) hblanks (by simpa [words] using hs)
      (by simpa [words] using ht)
  apply String.toList_injective
  simpa [squish, String.toList_append] using hchars

end CrontabRenderer.Text
