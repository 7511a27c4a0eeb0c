import CrontabRenderer.Proofs.Shell.Tokens

/-!
# Words at the front of a text

The word that a POSIX shell reads at the front of a text (`Shell.WordAt`). There is one such word at
most (`WordAt.unique`). A word that needs no quotation is read where it is written
(`wordAt_of_standsForItself`). Any other way to write a word takes more characters than the word has
(`WordAt.length_le`, `WordAt.eq_append`), since marks and backslashes that quote are not in it
(`Tokenizer.Weighs`).
-/
namespace CrontabRenderer.Shell

/-- The character ends a word that has begun, outside of quotations. -/
def EndsWord (c : Char) : Prop := [c] ∈ operators ∨ c = ' ' ∨ c = '\t'

instance (c : Char) : Decidable (EndsWord c) := inferInstanceAs (Decidable (_ ∨ _))

/-- A text begins with a word, after blanks if there are some; `rest` is behind the word. -/
def WordAt (s word rest : List Char) : Prop :=
  ∃ operand, s = operand ++ rest ∧
    Tokenizer.run {} operand = ⟨.unquoted, .word word, []⟩ ∧ ∀ c ∈ rest.head?, EndsWord c

/-- The character stands for itself anywhere in a word but at its front. -/
def IsLiteral (c : Char) : Prop := ¬EndsWord c ∧ c ≠ '\'' ∧ c ≠ '"' ∧ c ≠ '\\'

/-- A word that needs no quotation to be read as it is. What it expands to is another matter. -/
def StandsForItself (word : List Char) : Prop :=
  word ≠ [] ∧ word.head? ≠ some '#' ∧ ∀ c ∈ word, IsLiteral c

instance (c : Char) : Decidable (IsLiteral c) := inferInstanceAs (Decidable (_ ∧ _))

instance (word : List Char) : Decidable (StandsForItself word) :=
  have : Decidable (∀ c ∈ word, IsLiteral c) := List.decidableBAll IsLiteral word
  inferInstanceAs (Decidable (_ ∧ _ ∧ ∀ c ∈ word, IsLiteral c))

namespace Tokenizer

theorem read_literal {t : Tokenizer} {c : Char} (hc : IsLiteral c)
    (hcomment : c = '#' → t.inWord = true) : t.read c = t.put [c] := by
  obtain ⟨hends, hsingle, hdouble, hbackslash⟩ := hc
  simp only [EndsWord, not_or] at hends
  obtain ⟨hoperator, hspace, htab⟩ := hends
  have hhash : ¬(c = '#' ∧ t.inWord = false) := by
    rintro ⟨hc, hword⟩
    rw [hcomment hc] at hword
    cases hword
  simp [read, hoperator, hspace, htab, hsingle, hdouble, hbackslash, hhash]

theorem run_literal {s : List Char} (hs : ∀ c ∈ s, IsLiteral c) (word : List Char)
    (tokens : List Token) :
    run ⟨.unquoted, .word word, tokens⟩ s = ⟨.unquoted, .word (word ++ s), tokens⟩ := by
  induction s generalizing word with
  | nil => simp
  | cons c s ih =>
    obtain ⟨hc, hs⟩ := List.forall_mem_cons.1 hs
    have hstep : step ⟨.unquoted, .word word, tokens⟩ c =
        ⟨.unquoted, .word (word ++ [c]), tokens⟩ := read_literal hc fun _ => rfl
    rw [run_cons, hstep, ih hs, List.append_assoc, List.singleton_append]

theorem run_standsForItself {word : List Char} (h : StandsForItself word) :
    run {} word = ⟨.unquoted, .word word, []⟩ := by
  obtain ⟨hne, hhead, hliteral⟩ := h
  obtain ⟨c, rest, rfl⟩ := List.exists_cons_of_ne_nil hne
  obtain ⟨hc, hrest⟩ := List.forall_mem_cons.1 hliteral
  have hfirst : step {} c = ⟨.unquoted, .word [c], []⟩ :=
    read_literal hc fun hhash => absurd (by rw [hhash]; rfl) hhead
  rw [run_cons, hfirst, run_literal hrest, List.singleton_append]

/-! ## How long a word may be -/

theorem quoting_delimit (t : Tokenizer) : t.delimit.quoting = t.quoting := by
  obtain ⟨quoting, pending, tokens⟩ := t
  cases pending <;> rfl

@[simp] theorem begun_put (t : Tokenizer) (s : List Char) : (t.put s).begun = t.begun ++ s := rfl

/-- The characters of a word that are read already and are not in it. -/
def owed : Quoting → Nat
  | .unquoted => 0
  | .escaped => 1
  | .single => 1
  | .double => 1
  | .doubleEscaped => 2

/-- What is known behind a text as long as it has not ended a first word. -/
structure Weighs (s : List Char) (t : Tokenizer) : Prop where
  start : s = [] → t.pending = .nothing
  comment : t.pending = .comment → t.quoting = .unquoted
  bound : t.before = [] → t.pending ≠ .comment → t.begun.length + owed t.quoting ≤ s.length
  /-- A word without quotations is the whole text. -/
  exact : t.before = [] → t.pending ≠ .comment → t.quoting = .unquoted →
    s.length ≤ t.begun.length → s = t.begun ∧ s.head? ≠ some '#' ∧ ∀ c ∈ s, IsLiteral c

namespace Weighs

variable {s : List Char} {t t' : Tokenizer}

/-- Behind the first word, or with an operator in front of it, nothing is said. -/
theorem of_before_ne_nil (hs : s ≠ []) (h : t.before ≠ []) (hcomment : t.pending ≠ .comment) :
    Weighs s t :=
  ⟨fun h => absurd h hs, fun h => absurd h hcomment, fun h' => absurd h' h, fun h' => absurd h' h⟩

theorem of_comment (hs : s ≠ []) (h : t.pending = .comment) (hquoting : t.quoting = .unquoted) :
    Weighs s t :=
  ⟨fun h => absurd h hs, fun _ => hquoting, fun _ h' => absurd h h', fun _ h' => absurd h h'⟩

/-- A character is read of which no more gets into the word than was owed before. -/
theorem step_of_le (h : Weighs s t) (c : Char) {more : List Char} (hcomment : t.pending ≠ .comment)
    (hcomment' : t'.pending ≠ .comment) (hbefore : t'.before = t.before)
    (hbegun : t'.begun = t.begun ++ more) (hle : more.length ≤ owed t.quoting)
    (howed : more.length + owed t'.quoting ≤ owed t.quoting + 1) : Weighs (s ++ [c]) t' := by
  have hlength : t'.begun.length = t.begun.length + more.length := by
    rw [hbegun, List.length_append]
  have hlength' : (s ++ [c]).length = s.length + 1 := by simp
  have hbound (h' : t'.before = []) := h.bound (hbefore ▸ h') hcomment
  refine ⟨by simp, fun h' => absurd h' hcomment', fun h' _ => ?_, fun h' _ _ hexact => ?_⟩
  · have := hbound h'
    omega
  · have := hbound h'
    omega

theorem step_quoted (h : Weighs s t) (hquoting : t.quoting ≠ .unquoted) (c : Char) :
    Weighs (s ++ [c]) (t.step c) := by
  have hcomment : t.pending ≠ .comment := fun hcomment => hquoting (h.comment hcomment)
  have hkeep (quoting : Quoting) (howed : owed quoting ≤ owed t.quoting + 1) :
      Weighs (s ++ [c]) { t with quoting := quoting } :=
    h.step_of_le c hcomment hcomment rfl (List.append_nil _).symm (Nat.zero_le _) (by simpa)
  have hput (quoting : Quoting) (more : List Char) (hle : more.length ≤ owed t.quoting)
      (howed : more.length + owed quoting ≤ owed t.quoting + 1) :
      Weighs (s ++ [c]) { t.put more with quoting := quoting } :=
    h.step_of_le c hcomment (by rintro ⟨⟩) rfl rfl hle howed
  obtain ⟨quoting, pending, tokens⟩ := t
  cases quoting with
  | unquoted => exact absurd rfl hquoting
  | escaped =>
    simp only [step]
    split_ifs
    · exact hkeep .unquoted (by simp [owed])
    · exact hput .unquoted [c] (by simp [owed]) (by simp [owed])
  | single =>
    simp only [step]
    split_ifs
    · exact hkeep .unquoted (by simp [owed])
    · exact hput .single [c] (by simp [owed]) (by simp [owed])
  | double =>
    simp only [step]
    split_ifs
    · exact hkeep .unquoted (by simp [owed])
    · exact hkeep .doubleEscaped (by simp [owed])
    · exact hput .double [c] (by simp [owed]) (by simp [owed])
  | doubleEscaped =>
    simp only [step]
    split_ifs
    · exact hkeep .double (by simp [owed])
    · exact hput .double [c] (by simp [owed]) (by simp [owed])
    · exact hput .double ['\\', c] (by simp [owed]) (by simp [owed])

/-- A character that gets into the word as it is. -/
theorem read_put (h : Weighs s t) (hcomment : t.pending ≠ .comment)
    (hquoting : t.quoting = .unquoted) {c : Char} (hc : IsLiteral c)
    (hhash : ¬(c = '#' ∧ t.inWord = false)) : Weighs (s ++ [c]) (t.put [c]) := by
  have hlength : (s ++ [c]).length = s.length + 1 := by simp
  have hbegun : (t.put [c]).begun.length = t.begun.length + 1 := by simp
  have howed : owed t.quoting = 0 := by rw [hquoting]; rfl
  refine ⟨by simp, by rintro ⟨⟩, fun hbefore _ => ?_, fun hbefore _ _ hle => ?_⟩
  · have := h.bound hbefore hcomment
    have howed' : owed (t.put [c]).quoting = 0 := howed
    omega
  · obtain ⟨hs, hhead, hliteral⟩ := h.exact hbefore hcomment hquoting (by omega)
    refine ⟨by rw [begun_put, ← hs], ?_, List.forall_mem_append.2 ⟨hliteral, by simpa using hc⟩⟩
    cases s with
    | nil =>
      have hword : t.inWord = false := by
        rw [inWord, h.start rfl]
      intro hfirst
      exact hhash ⟨by simpa using hfirst, hword⟩
    | cons first rest => simpa using hhead

theorem read (h : Weighs s t) (hcomment : t.pending ≠ .comment) (hquoting : t.quoting = .unquoted)
    (c : Char) : Weighs (s ++ [c]) (t.read c) := by
  have hs : s ++ [c] ≠ [] := by simp
  have hkeep (quoting : Quoting) (howed : owed quoting ≤ 1) :
      Weighs (s ++ [c]) { t.put [] with quoting := quoting } :=
    h.step_of_le c hcomment (by rintro ⟨⟩) rfl rfl (Nat.zero_le _) (by simp; omega)
  rw [Tokenizer.read]
  split_ifs with hoperator hblank hsingle hdouble hbackslash hhash
  · exact of_before_ne_nil hs (by simp [before]) (by rintro ⟨⟩)
  · obtain ⟨quoting, pending, tokens⟩ := t
    cases pending with
    | nothing =>
      have howed : owed quoting ≤ owed quoting + 1 := Nat.le_succ _
      exact h.step_of_le c (by rintro ⟨⟩) (by rintro ⟨⟩) rfl rfl (Nat.zero_le _)
        ((Nat.zero_add _).trans_le howed)
    | word word => exact of_before_ne_nil hs (by simp [delimit, before]) (by rintro ⟨⟩)
    | operator characters => exact of_before_ne_nil hs (by simp [delimit, before]) (by rintro ⟨⟩)
    | comment => exact absurd rfl hcomment
  · exact hkeep .single (by decide)
  · exact hkeep .double (by decide)
  · exact h.step_of_le c hcomment hcomment rfl (List.append_nil _).symm (Nat.zero_le _)
      (by simp [owed])
  · exact of_comment hs rfl ((quoting_delimit t).trans hquoting)
  · simp only [not_or] at hblank
    exact h.read_put hcomment hquoting
      ⟨by simp [EndsWord, hoperator, hblank], hsingle, hdouble, hbackslash⟩ hhash

theorem step (h : Weighs s t) (c : Char) : Weighs (s ++ [c]) (t.step c) := by
  have hs : s ++ [c] ≠ [] := by simp
  by_cases hquoting : t.quoting = .unquoted
  · obtain ⟨quoting, pending, tokens⟩ := t
    obtain rfl : quoting = .unquoted := hquoting
    cases pending with
    | nothing => exact h.read (by rintro ⟨⟩) rfl c
    | word word => exact h.read (by rintro ⟨⟩) rfl c
    | operator characters =>
      simp only [Tokenizer.step]
      split_ifs
      · exact of_before_ne_nil hs (by simp [before]) (by rintro ⟨⟩)
      · exact h.read (by rintro ⟨⟩) rfl c
    | comment =>
      simp only [Tokenizer.step]
      split_ifs with hline
      · subst hline
        exact of_before_ne_nil hs (by simp [Tokenizer.read, before, operators]) (by rintro ⟨⟩)
      · exact of_comment hs rfl rfl
  · exact h.step_quoted hquoting c

theorem run (s : List Char) : Weighs s (run {} s) := by
  induction s using List.reverseRecOn with
  | nil =>
    exact ⟨fun _ => rfl, by rintro ⟨⟩, fun _ _ => Nat.le_refl 0,
      fun _ _ _ _ => ⟨rfl, by simp, by simp⟩⟩
  | append_singleton s c ih =>
    rw [run_append]
    exact ih.step c

end Weighs

theorem tokens_step_ne_nil {t : Tokenizer} (h : t.tokens ≠ []) (c : Char) :
    (t.step c).tokens ≠ [] := by
  have ht : t = behind ⟨t.quoting, t.pending, []⟩ t.tokens := by simp [behind]
  rw [ht, step_behind]
  simp [behind, h]

theorem tokens_run_ne_nil {t : Tokenizer} (h : t.tokens ≠ []) (s : List Char) :
    (t.run s).tokens ≠ [] := by
  induction s generalizing t with
  | nil => exact h
  | cons c s ih => exact ih (tokens_step_ne_nil h c)

theorem tokens_step_of_endsWord {c : Char} (hc : EndsWord c) (word : List Char) :
    (step ⟨.unquoted, .word word, []⟩ c).tokens ≠ [] := by
  have hread : step ⟨.unquoted, .word word, []⟩ c = read ⟨.unquoted, .word word, []⟩ c := rfl
  rw [hread, read]
  by_cases hoperator : [c] ∈ operators
  · simp [hoperator, delimit]
  · have hblank : c = ' ' ∨ c = '\t' := hc.resolve_left hoperator
    simp [hoperator, hblank, delimit]

end Tokenizer

section Words

variable {s word rest : List Char}

theorem wordAt_of_standsForItself (h : StandsForItself word)
    (hrest : ∀ c ∈ rest.head?, EndsWord c) : WordAt (word ++ rest) word rest :=
  ⟨word, rfl, Tokenizer.run_standsForItself h, hrest⟩

theorem wordAt_space_iff : WordAt (' ' :: s) word rest ↔ WordAt s word rest := by
  have hspace (operand : List Char) :
      Tokenizer.run {} (' ' :: operand) = Tokenizer.run {} operand := rfl
  constructor
  · rintro ⟨operand, hs, hrun, hrest⟩
    cases operand with
    | nil => cases hrun
    | cons c operand =>
      obtain ⟨rfl, rfl⟩ := List.cons_eq_cons.1 hs
      exact ⟨operand, rfl, hspace operand ▸ hrun, hrest⟩
  · rintro ⟨operand, rfl, hrun, hrest⟩
    exact ⟨' ' :: operand, rfl, hspace operand ▸ hrun, hrest⟩

theorem WordAt.length_le (h : WordAt s word rest) : word.length + rest.length ≤ s.length := by
  obtain ⟨operand, rfl, hrun, -⟩ := h
  have hweighs := Tokenizer.Weighs.run operand
  rw [hrun] at hweighs
  have hbound : word.length ≤ operand.length := hweighs.bound rfl (by rintro ⟨⟩)
  rw [List.length_append]
  omega

theorem WordAt.eq_append (h : WordAt s word rest) (hle : s.length ≤ word.length + rest.length) :
    s = word ++ rest ∧ StandsForItself word := by
  obtain ⟨operand, rfl, hrun, -⟩ := h
  have hweighs := Tokenizer.Weighs.run operand
  rw [hrun] at hweighs
  rw [List.length_append] at hle
  obtain ⟨hsame, hhead, hliteral⟩ := hweighs.exact rfl (by rintro ⟨⟩) rfl
    (by show operand.length ≤ word.length; omega)
  obtain rfl : operand = word := hsame
  refine ⟨rfl, ?_, hhead, hliteral⟩
  rintro rfl
  cases hrun

theorem WordAt.unique {word' rest' : List Char} (h : WordAt s word rest)
    (h' : WordAt s word' rest') : word = word' ∧ rest = rest' := by
  -- what one reading takes more than the other would begin with the end of the word
  have hnot {operand more word word' : List Char} {c : Char} (hc : EndsWord c)
      (hrun : Tokenizer.run {} operand = ⟨.unquoted, .word word, []⟩)
      (hrun' : Tokenizer.run {} (operand ++ c :: more) = ⟨.unquoted, .word word', []⟩) : False := by
    rw [Tokenizer.run_append, hrun, Tokenizer.run_cons] at hrun'
    have htokens := Tokenizer.tokens_run_ne_nil (Tokenizer.tokens_step_of_endsWord hc word) more
    rw [hrun'] at htokens
    exact htokens rfl
  obtain ⟨operand, rfl, hrun, hends⟩ := h
  obtain ⟨operand', hs, hrun', hends'⟩ := h'
  rcases List.append_eq_append_iff.1 hs with ⟨more, rfl, rfl⟩ | ⟨more, rfl, rfl⟩
  · cases more with
    | nil =>
      rw [List.append_nil, hrun] at hrun'
      cases hrun'
      exact ⟨rfl, rfl⟩
    | cons c more => exact absurd hrun' (hnot (hends c rfl) hrun)
  · cases more with
    | nil =>
      rw [List.append_nil, hrun'] at hrun
      cases hrun
      exact ⟨rfl, rfl⟩
    | cons c more => exact absurd hrun (hnot (hends' c rfl) hrun')

end Words

end CrontabRenderer.Shell
