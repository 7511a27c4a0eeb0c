import CrontabRenderer.Text.Blank
import Mathlib.Data.List.DropRight
import Mathlib.Tactic.Common

/-!
# Words and squishing

The words of a text are found by cutting it at blanks (`wordsOf_append_cons`). A squished text has
no blank but the space (`eq_space_of_mem_squishChars`). Between its first and its last word,
squishing does no more than `collapse`, which writes every longest run of blanks as one space
(`squishChars_eq_collapse`). Trimming twice is trimming once (`trim_trim`).
-/
namespace CrontabRenderer.Text

theorem cutAt_eq_splitOnP (separates : Char → Bool) (s : List Char) :
    cutAt separates s = s.splitOnP separates := by
  induction s with
  | nil => rfl
  | cons c s ih =>
    rw [cutAt_cons, List.splitOnP_cons_eq_if_modifyHead, ih]
    split
    · rfl
    · cases h : s.splitOnP separates with
      | nil => exact absurd h (List.splitOnP_ne_nil separates s)
      | cons piece rest => rfl

theorem cutAt_eq_splitOn (mark : Char) (s : List Char) : cutAt (· = mark) s = s.splitOn mark := by
  rw [cutAt_eq_splitOnP, List.splitOn]
  rfl

theorem wordsOf_append_cons {b : Char} (hb : isBlank b = true) (s t : List Char) :
    wordsOf (s ++ b :: t) = wordsOf s ++ wordsOf t := by
  simp only [wordsOf, cutAt_eq_splitOnP]
  rw [List.splitOnP_append_cons s t hb, List.filter_append]

@[simp] theorem wordsOf_nil : wordsOf [] = [] := rfl

theorem wordsOf_cons_of_isBlank {b : Char} (hb : isBlank b = true) (s : List Char) :
    wordsOf (b :: s) = wordsOf s := by
  simpa using wordsOf_append_cons hb [] s

/-- A character that is no blank begins the first word, or makes a word before it. -/
theorem wordsOf_cons_of_not_isBlank {c : Char} (hc : isBlank c = false) (s : List Char) :
    wordsOf (c :: s) =
      if s.head?.all isBlank then [c] :: wordsOf s else (wordsOf s).modifyHead (c :: ·) := by
  cases s with
  | nil => simp [wordsOf, cutAt, hc]
  | cons d s =>
    cases hd : isBlank d with
    | true =>
      have hone : wordsOf [c] = [[c]] := by simp [wordsOf, cutAt, hc]
      have hcut := wordsOf_append_cons hd [c] s
      rw [hone] at hcut
      simpa [hd, wordsOf_cons_of_isBlank hd] using hcut
    | false =>
      simp only [wordsOf, cutAt_eq_splitOnP, List.splitOnP_cons_eq_if_modifyHead, hc, hd]
      cases h : s.splitOnP isBlank with
      | nil => exact absurd h (List.splitOnP_ne_nil isBlank s)
      | cons piece rest => simp [hd]

theorem flatten_cutAt (separates : Char → Bool) (s : List Char) :
    (cutAt separates s).flatten = s.filter (!separates ·) := by
  induction s with
  | nil => rfl
  | cons c s ih =>
    rw [cutAt_cons]
    cases hc : separates c with
    | true => simp [hc, ih]
    | false =>
      cases h : cutAt separates s with
      | nil => simp [hc, ← ih, h]
      | cons piece rest => simp [hc, ← ih, h]

theorem mem_of_mem_cutAt {separates : Char → Bool} {s piece : List Char} {c : Char}
    (hpiece : piece ∈ cutAt separates s) (hc : c ∈ piece) : c ∈ s := by
  have hflat : c ∈ (cutAt separates s).flatten := List.mem_flatten.2 ⟨piece, hpiece, hc⟩
  rw [flatten_cutAt] at hflat
  exact List.mem_of_mem_filter hflat

/-- The words are all of a text but its blanks. -/
theorem flatten_wordsOf (s : List Char) : (wordsOf s).flatten = s.filter (!isBlank ·) := by
  rw [wordsOf, List.flatten_filter_not_isEmpty, flatten_cutAt]

theorem wordsOf_ne_nil {c : Char} {s : List Char} (hmem : c ∈ s) (hc : isBlank c = false) :
    wordsOf s ≠ [] := by
  intro h
  have hflat := flatten_wordsOf s
  rw [h] at hflat
  have : c ∈ s.filter (!isBlank ·) := List.mem_filter.2 ⟨hmem, by simp [hc]⟩
  rw [← hflat] at this
  cases this

theorem squishChars_cons_of_isBlank {b : Char} (hb : isBlank b = true) (s : List Char) :
    squishChars (b :: s) = squishChars s := by
  rw [squishChars, wordsOf_cons_of_isBlank hb, squishChars]

theorem squishChars_append_of_isBlank {b : Char} (hb : isBlank b = true) (s : List Char) :
    squishChars (s ++ [b]) = squishChars s := by
  rw [squishChars, wordsOf_append_cons hb, wordsOf_nil, List.append_nil, squishChars]

/-- Blanks behind a character that is none are written as a space if a word comes behind them. -/
theorem squishChars_cons_of_not_isBlank {c : Char} (hc : isBlank c = false) {s : List Char}
    (hs : wordsOf s ≠ []) :
    squishChars (c :: s) =
      c :: if s.head?.any isBlank then ' ' :: squishChars s else squishChars s := by
  rw [squishChars, wordsOf_cons_of_not_isBlank hc]
  obtain ⟨word, rest, hwords⟩ := List.exists_cons_of_ne_nil hs
  cases s with
  | nil => exact absurd rfl hs
  | cons d s =>
    cases hd : isBlank d with
    | true => simp [hd, squishChars, hwords]
    | false =>
      cases rest <;> simp [hd, squishChars, hwords]

theorem mem_intercalate {α : Type} {a : α} {separator : List α} {pieces : List (List α)}
    (h : a ∈ separator.intercalate pieces) : a ∈ separator ∨ ∃ piece ∈ pieces, a ∈ piece := by
  induction pieces with
  | nil => simp at h
  | cons piece rest ih =>
    by_cases hrest : rest = []
    · simp only [hrest, List.intercalate_singleton] at h
      exact .inr ⟨piece, List.mem_cons_self, h⟩
    · rw [List.intercalate_cons_of_ne_nil hrest, List.mem_append, List.mem_append] at h
      rcases h with (h | h) | h
      · exact .inr ⟨piece, List.mem_cons_self, h⟩
      · exact .inl h
      · rcases ih h with h | ⟨other, hother, h⟩
        · exact .inl h
        · exact .inr ⟨other, List.mem_cons_of_mem _ hother, h⟩

/-- A squished text has no blank but the space. -/
theorem eq_space_of_mem_squishChars {c : Char} {s : List Char} (h : c ∈ squishChars s)
    (hc : isBlank c = true) : c = ' ' := by
  rcases mem_intercalate h with h | ⟨word, hword, h⟩
  · simpa using h
  · rw [not_isBlank_of_mem_wordsOf hword c h] at hc
    cases hc

theorem mem_replaceChar {c mark : Char} {replacement s : List Char}
    (h : c ∈ replaceChar mark replacement s) : c ∈ s ∨ c ∈ replacement := by
  obtain ⟨d, hd, h⟩ := List.mem_flatMap.1 h
  split at h
  · exact .inr h
  · rw [List.mem_singleton.1 h]
    exact .inl hd

/-- Every longest run of blanks is written as one space, also at the ends. -/
def collapse : List Char → List Char
  | [] => []
  | c :: rest =>
    if isBlank c then if rest.head?.any isBlank then collapse rest else ' ' :: collapse rest
    else c :: collapse rest

@[simp] theorem collapse_nil : collapse [] = [] := rfl

/-- A character that is no blank parts the runs on its two sides. -/
theorem collapse_append_cons {c : Char} (hc : isBlank c = false) (s t : List Char) :
    collapse (s ++ c :: t) = collapse s ++ c :: collapse t := by
  induction s with
  | nil => simp [collapse, hc]
  | cons d s ih =>
    have hhead : (s ++ c :: t).head?.any isBlank = s.head?.any isBlank := by
      cases s <;> simp [hc]
    rw [List.cons_append, collapse, collapse, hhead, ih]
    split
    · split <;> rfl
    · rfl

theorem collapse_append_of_not_isBlank {s : List Char} (hs : ∀ c ∈ s, isBlank c = false)
    (t : List Char) : collapse (s ++ t) = s ++ collapse t := by
  induction s with
  | nil => rfl
  | cons c s ih =>
    obtain ⟨hc, hs⟩ := List.forall_mem_cons.1 hs
    rw [List.cons_append, collapse, if_neg (by simp [hc]), ih hs, List.cons_append]

/-- Words with a space behind each have nothing to collapse. -/
theorem collapse_flatMap_append_cons {words : List (List Char)}
    (hwords : ∀ word ∈ words, word ≠ [] ∧ ∀ c ∈ word, isBlank c = false) {c : Char}
    (hc : isBlank c = false) (t : List Char) :
    collapse (words.flatMap (· ++ [' ']) ++ c :: t) =
      words.flatMap (· ++ [' ']) ++ c :: collapse t := by
  induction words with
  | nil => simpa using collapse_append_cons hc [] t
  | cons word words ih =>
    obtain ⟨⟨-, hword⟩, hwords⟩ := List.forall_mem_cons.1 hwords
    have hhead : (words.flatMap (· ++ [' ']) ++ c :: t).head?.any isBlank = false := by
      cases words with
      | nil => simp [hc]
      | cons next words =>
        obtain ⟨⟨hne, hnext⟩, -⟩ := List.forall_mem_cons.1 hwords
        obtain ⟨d, rest, rfl⟩ := List.exists_cons_of_ne_nil hne
        simp [hnext d]
    rw [List.flatMap_cons, List.append_assoc, List.append_assoc, List.singleton_append,
      collapse_append_of_not_isBlank hword, collapse, if_pos (by decide), hhead, if_neg (by decide),
      ih hwords]
    simp

/-- Writing a mark in another way leaves the blanks as they are. -/
theorem collapse_replaceChar {mark : Char} {replacement : List Char} (hmark : isBlank mark = false)
    (hne : replacement ≠ []) (hreplacement : ∀ c ∈ replacement, isBlank c = false)
    (s : List Char) :
    collapse (replaceChar mark replacement s) = replaceChar mark replacement (collapse s) := by
  have hhead (s : List Char) :
      (replaceChar mark replacement s).head?.any isBlank = s.head?.any isBlank := by
    cases s with
    | nil => rfl
    | cons c s =>
      by_cases hc : c = mark
      · obtain ⟨d, rest, hrest⟩ := List.exists_cons_of_ne_nil hne
        have hd : isBlank d = false := hreplacement d (by simp [hrest])
        simp [replaceChar, hc, hmark, hrest, hd]
      · simp [replaceChar, hc]
  induction s with
  | nil => rfl
  | cons c s ih =>
    have hcons (c : Char) (s : List Char) : replaceChar mark replacement (c :: s) =
        (if c = mark then replacement else [c]) ++ replaceChar mark replacement s := rfl
    rw [hcons]
    by_cases hc : c = mark
    · rw [if_pos hc, collapse_append_of_not_isBlank hreplacement, ih, collapse,
        if_neg (by simp [hc, hmark]), hcons, if_pos hc]
    · rw [if_neg hc, List.singleton_append, collapse, collapse, hhead, ih]
      by_cases hblank : isBlank c = true
      · have hspace : ' ' ≠ mark := by
          rintro rfl
          exact absurd hmark (by decide)
        rw [if_pos hblank, if_pos hblank]
        split
        · rfl
        · rw [hcons, if_neg hspace, List.singleton_append]
      · rw [if_neg hblank, if_neg hblank, hcons, if_neg hc, List.singleton_append]

/-- Squishing a text that ends with a word only collapses it, and drops the space in front. -/
theorem collapse_append_singleton {e : Char} (he : isBlank e = false) (s : List Char) :
    collapse (s ++ [e]) =
      if (s ++ [e]).head?.any isBlank then ' ' :: squishChars (s ++ [e])
      else squishChars (s ++ [e]) := by
  induction s with
  | nil => simp [collapse, he, squishChars, wordsOf_cons_of_not_isBlank he]
  | cons c s ih =>
    have hwords : wordsOf (s ++ [e]) ≠ [] := wordsOf_ne_nil (c := e) (by simp) he
    rw [List.cons_append, collapse, ih]
    cases hc : isBlank c with
    | true =>
      rw [squishChars_cons_of_isBlank hc]
      cases (s ++ [e]).head?.any isBlank <;> simp [hc]
    | false =>
      rw [squishChars_cons_of_not_isBlank hc hwords]
      simp [hc]

/-- Squishing a text without blanks at its ends only collapses the blanks in it. -/
theorem squishChars_eq_collapse {s : List Char} (hhead : s.head?.any isBlank = false)
    (hlast : s.getLast?.any isBlank = false) : squishChars s = collapse s := by
  rcases List.eq_nil_or_concat s with rfl | ⟨t, e, rfl⟩
  · rfl
  · rw [List.concat_eq_append] at hhead hlast ⊢
    have he : isBlank e = false := by simpa using hlast
    rw [collapse_append_singleton he, hhead, if_neg (by decide)]

theorem trimChars_eq_rdropWhile (s : List Char) :
    trimChars s = (s.dropWhile isBlank).rdropWhile isBlank := rfl

theorem dropWhile_isBlank_rdropWhile {s : List Char} (h : s.dropWhile isBlank = s) :
    (s.rdropWhile isBlank).dropWhile isBlank = s.rdropWhile isBlank := by
  cases hs : s.rdropWhile isBlank with
  | nil => rfl
  | cons c rest =>
    obtain ⟨rest', hprefix⟩ : c :: rest <+: s := hs ▸ List.rdropWhile_prefix isBlank s
    rw [← hprefix, List.cons_append] at h
    have hc : isBlank c = false := by
      by_contra hc
      have hlength := congrArg List.length h
      rw [List.dropWhile_cons_of_pos (by simpa using hc)] at hlength
      have := (List.dropWhile_suffix (l := rest ++ rest') isBlank).length_le
      simp at hlength this
      omega
    rw [List.dropWhile_cons_of_neg (by simp [hc])]

/-- Nothing is left to trim of a trimmed text. -/
theorem trimChars_trimChars (s : List Char) : trimChars (trimChars s) = trimChars s := by
  rw [trimChars_eq_rdropWhile, trimChars_eq_rdropWhile,
    dropWhile_isBlank_rdropWhile (List.dropWhile_idempotent isBlank s),
    List.rdropWhile_idempotent]

@[simp] theorem trim_trim (s : String) : trim (trim s) = trim s := by
  simp [trim, trimChars_trimChars]

/-- The words of a text are those of the trimmed text. -/
theorem wordsOf_trimChars (s : List Char) : wordsOf (trimChars s) = wordsOf s := by
  have hfront (s : List Char) : wordsOf (s.dropWhile isBlank) = wordsOf s := by
    induction s with
    | nil => rfl
    | cons c s ih =>
      by_cases hc : isBlank c = true
      · rw [List.dropWhile_cons_of_pos hc, ih, wordsOf_cons_of_isBlank hc]
      · rw [List.dropWhile_cons_of_neg hc]
  have hback (s : List Char) : wordsOf (s.rdropWhile isBlank) = wordsOf s := by
    induction s using List.reverseRecOn with
    | nil => rw [List.rdropWhile_nil]
    | append_singleton s c ih =>
      by_cases hc : isBlank c = true
      · rw [List.rdropWhile_concat_pos isBlank s c hc, ih, wordsOf_append_cons hc, wordsOf_nil,
          List.append_nil]
      · rw [List.rdropWhile_concat_neg isBlank s c hc]
  rw [trimChars_eq_rdropWhile, hback, hfront]

end CrontabRenderer.Text
