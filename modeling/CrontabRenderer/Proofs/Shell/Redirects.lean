import CrontabRenderer.Proofs.Decimal.Digits
import CrontabRenderer.Proofs.Shell.WordAt

/-!
# Shell redirections

How a POSIX shell reads a text that is a sequence of redirections of output (`Shell.Reads`), and
what they make of the descriptors (`Shell.opened`). The words are those before any expansion, so
dollar signs and patterns stand for themselves. A text is read as one sequence at most
(`Reads.unique`). The text of a sequence is read as this sequence if its files need no quotation
(`reads_written`). With one file, and with one for the output and one for the errors, it is so read
only then (`reads_file_iff`, `reads_two_files_iff`).
-/
namespace CrontabRenderer.Shell

/-- How a file is opened for writing. -/
inductive Mode where
  | truncate
  | append
  deriving Repr, DecidableEq

def Mode.operator : Mode → List Char
  | .truncate => ['>']
  | .append => ['>', '>']

/-- What a redirection makes of its descriptor. -/
inductive Target where
  | file (mode : Mode) (path : List Char)
  /-- The same as another descriptor is at that time. -/
  | copy (descriptor : Nat)
  deriving Repr, DecidableEq

structure Redirect where
  descriptor : Nat
  target : Target
  deriving Repr, DecidableEq

/-! ## What redirections do -/

/-- Where the output of a descriptor goes. -/
inductive Destination where
  /-- Where the output of a descriptor went before all redirections. -/
  | inherited (descriptor : Nat)
  | file (mode : Mode) (path : List Char)
  deriving Repr, DecidableEq

/-- A redirection changes its descriptor and leaves the others alone. -/
def Redirect.apply (destinations : Nat → Destination) (redirect : Redirect) : Nat → Destination :=
  Function.update destinations redirect.descriptor <|
    match redirect.target with
    | .file mode path => .file mode path
    | .copy descriptor => destinations descriptor

/-- The destinations after redirections, which are made one after another. -/
def opened (redirects : List Redirect) : Nat → Destination :=
  redirects.foldl Redirect.apply .inherited

/-! ## How they are written and read -/

/-- The number in front of an operator. Without one it is the output that is redirected. -/
def numberText (descriptor : Nat) : List Char :=
  if descriptor = 1 then [] else Decimal.digits descriptor

def Redirect.text (redirect : Redirect) : List Char :=
  numberText redirect.descriptor ++
    match redirect.target with
    | .file mode path => mode.operator ++ ' ' :: path
    | .copy descriptor => '>' :: '&' :: Decimal.digits descriptor

/-- Redirections with a space between them, the paths as they are. -/
def written (redirects : List Redirect) : List Char :=
  [' '].intercalate (redirects.map Redirect.text)

def skipBlanks (s : List Char) : List Char := s.dropWhile fun c => c = ' ' || c = '\t'

inductive Operator where
  | file (mode : Mode)
  | copy
  deriving Repr, DecidableEq

/-- What an operator makes of a descriptor with the word behind it. -/
def Operator.target? : Operator → List Char → Option Target
  | .file mode, word => some (.file mode word)
  | .copy, word => (Decimal.ofDigits? 10 word).map .copy

/-- An operator, and what is behind it. -/
def operator? : List Char → Option (Operator × List Char)
  | '>' :: '>' :: rest => some (.file .append, rest)
  | '>' :: '&' :: rest => some (.copy, rest)
  | '>' :: '|' :: rest => some (.file .truncate, rest)
  | '>' :: rest => some (.file .truncate, rest)
  | _ => none

/-- An operator with the number in front of it if there is one, and what is behind it. -/
def takeOperator? (s : List Char) : Option (Nat × Operator × List Char) :=
  (operator? (s.dropWhile Char.isDigit)).map fun taken =>
    ((Decimal.ofDigits? 10 (s.takeWhile Char.isDigit)).getD 1, taken)

/-- The shell reads the text as these redirections and nothing else, but for a comment at its end.
Digits in front of an operator are not the word that another operator asks for. -/
inductive Reads : List Char → List Redirect → Prop
  | nil {s : List Char} (h : skipBlanks s = []) : Reads s []
  | comment {s rest : List Char} (h : skipBlanks s = '#' :: rest) (hline : '\n' ∉ rest) :
      Reads s []
  | cons {s behind word rest : List Char} {descriptor : Nat} {operator : Operator} {target : Target}
      {redirects : List Redirect}
      (hoperator : takeOperator? (skipBlanks s) = some (descriptor, operator, behind))
      (hnumber : takeOperator? (skipBlanks behind) = none) (hword : WordAt behind word rest)
      (htarget : operator.target? word = some target) (hrest : Reads rest redirects) :
      Reads s (⟨descriptor, target⟩ :: redirects)

/-! ## Operators -/

theorem isDigit_of_mem_numberText {descriptor : Nat} :
    ∀ c ∈ numberText descriptor, c.isDigit = true := by
  rw [numberText]
  split
  · simp
  · exact Decimal.isDigit_of_ofDigits? (Decimal.ofDigits?_digits descriptor)

theorem takeOperator?_number (descriptor : Nat) (s : List Char) :
    takeOperator? (numberText descriptor ++ '>' :: s) =
      (operator? ('>' :: s)).map fun taken => (descriptor, taken) := by
  have hnumber : (Decimal.ofDigits? 10 (numberText descriptor)).getD 1 = descriptor := by
    rw [numberText]
    split
    · rename_i h
      rw [h]
      rfl
    · rw [Decimal.ofDigits?_digits, Option.getD_some]
  have htake : (numberText descriptor ++ '>' :: s).takeWhile Char.isDigit =
      numberText descriptor := by
    rw [List.takeWhile_append_of_pos isDigit_of_mem_numberText]
    simp
  have hdrop : (numberText descriptor ++ '>' :: s).dropWhile Char.isDigit = '>' :: s := by
    rw [List.dropWhile_append_of_pos isDigit_of_mem_numberText]
    rfl
  rw [takeOperator?, htake, hdrop, hnumber]

theorem takeOperator?_file (descriptor : Nat) (mode : Mode) (s : List Char) :
    takeOperator? (numberText descriptor ++ (mode.operator ++ ' ' :: s)) =
      some (descriptor, .file mode, ' ' :: s) := by
  cases mode <;> exact takeOperator?_number descriptor _

theorem length_of_operator? {s behind : List Char} {mode : Mode}
    (h : operator? s = some (.file mode, behind)) :
    mode.operator.length + behind.length ≤ s.length := by
  unfold operator? at h
  split at h
  all_goals
    cases h
    try simp [Mode.operator]
  all_goals omega

/-- A redirection of another descriptor than the output has a number. -/
theorem length_of_takeOperator? {s behind : List Char} {mode : Mode} {descriptor : Nat}
    (h : takeOperator? s = some (descriptor, .file mode, behind)) (hdescriptor : descriptor ≠ 1) :
    1 + mode.operator.length + behind.length ≤ s.length := by
  obtain ⟨⟨operator, rest⟩, hoperator, hsome⟩ := Option.map_eq_some_iff.1 h
  cases hsome
  have hlength := length_of_operator? hoperator
  have hdigits : 0 < (s.takeWhile Char.isDigit).length := by
    refine List.length_pos_iff.2 fun hnil => hdescriptor ?_
    rw [hnil]
    rfl
  have hsplit := congrArg List.length (List.takeWhile_append_dropWhile (p := Char.isDigit) (l := s))
  rw [List.length_append] at hsplit
  omega

theorem skipBlanks_eq_self {s : List Char} (h : ∀ c ∈ s.head?, c ≠ ' ' ∧ c ≠ '\t') :
    skipBlanks s = s := by
  cases s with
  | nil => rfl
  | cons c s =>
    obtain ⟨hspace, htab⟩ := h c rfl
    simp [skipBlanks, hspace, htab]

theorem skipBlanks_number (descriptor : Nat) (s : List Char) :
    skipBlanks (numberText descriptor ++ '>' :: s) = numberText descriptor ++ '>' :: s := by
  apply skipBlanks_eq_self
  intro c hc
  have hdigit := @isDigit_of_mem_numberText descriptor
  cases hnumber : numberText descriptor with
  | nil =>
    rw [hnumber] at hc
    obtain rfl : '>' = c := by simpa using hc
    decide
  | cons first rest =>
    rw [hnumber] at hc hdigit
    obtain rfl : first = c := by simpa using hc
    have hfirst := hdigit first List.mem_cons_self
    constructor
    all_goals
      rintro rfl
      cases hfirst

/-! ## Sequences -/

section Sequences

variable {s : List Char} {redirects : List Redirect}

theorem reads_space_iff : Reads (' ' :: s) redirects ↔ Reads s redirects := by
  have hskip : skipBlanks (' ' :: s) = skipBlanks s := rfl
  constructor
  · intro h
    cases h with
    | nil h => exact .nil (hskip ▸ h)
    | comment h hline => exact .comment (hskip ▸ h) hline
    | cons hoperator hnumber hword htarget hrest =>
      exact .cons (hskip ▸ hoperator) hnumber hword htarget hrest
  · intro h
    cases h with
    | nil h => exact .nil (hskip ▸ h)
    | comment h hline => exact .comment (hskip ▸ h) hline
    | cons hoperator hnumber hword htarget hrest =>
      exact .cons (hskip ▸ hoperator) hnumber hword htarget hrest

/-- A text is read as one sequence of redirections at most. -/
theorem Reads.unique {redirects' : List Redirect} (h : Reads s redirects)
    (h' : Reads s redirects') : redirects = redirects' := by
  induction h generalizing redirects' with
  | nil hnil =>
    cases h' with
    | nil => rfl
    | comment => rfl
    | cons hoperator =>
      rw [hnil] at hoperator
      cases hoperator
  | comment hcomment =>
    cases h' with
    | nil => rfl
    | comment => rfl
    | cons hoperator =>
      rw [hcomment] at hoperator
      cases hoperator
  | cons hoperator _ hword htarget _ ih =>
    cases h' with
    | nil hnil =>
      rw [hnil] at hoperator
      cases hoperator
    | comment hcomment =>
      rw [hcomment] at hoperator
      cases hoperator
    | cons hoperator' _ hword' htarget' hrest' =>
      rw [hoperator] at hoperator'
      cases hoperator'
      obtain ⟨rfl, rfl⟩ := hword.unique hword'
      rw [htarget] at htarget'
      cases htarget'
      rw [ih hrest']

theorem reads_cons_file_iff {descriptor : Nat} {mode : Mode} {redirect : Redirect} :
    Reads (numberText descriptor ++ (mode.operator ++ ' ' :: s)) (redirect :: redirects) ↔
      takeOperator? (skipBlanks s) = none ∧ ∃ word rest, WordAt s word rest ∧
        redirect = ⟨descriptor, .file mode word⟩ ∧ Reads rest redirects := by
  have hskip : skipBlanks (numberText descriptor ++ (mode.operator ++ ' ' :: s)) =
      numberText descriptor ++ (mode.operator ++ ' ' :: s) := by
    cases mode <;> exact skipBlanks_number descriptor _
  constructor
  · intro h
    cases h with
    | @cons _ behind word rest descriptor' operator target _ hoperator hnumber hword htarget
        hrest =>
      rw [hskip, takeOperator?_file] at hoperator
      cases hoperator
      cases htarget
      exact ⟨hnumber, word, rest, wordAt_space_iff.1 hword, rfl, hrest⟩
  · rintro ⟨hnumber, word, rest, hword, rfl, hrest⟩
    have hnumber : takeOperator? (skipBlanks (' ' :: s)) = none := hnumber
    exact .cons (by rw [hskip, takeOperator?_file]) hnumber (wordAt_space_iff.2 hword) rfl hrest

/-- A file of the redirection needs no quotation. -/
def Redirect.IsPlain (redirect : Redirect) : Prop :=
  match redirect.target with
  | .file _ path => StandsForItself path
  | .copy _ => True

theorem standsForItself_digits (n : Nat) : StandsForItself (Decimal.digits n) := by
  have hdigit := Decimal.isDigit_of_ofDigits? (Decimal.ofDigits?_digits n)
  refine ⟨Nat.toDigits_ne_nil, fun hhead => ?_, fun c hc => ?_⟩
  · have hhash := hdigit '#' (List.mem_of_mem_head? hhead)
    cases hhash
  · have hc := hdigit c hc
    have hoperator : [c] ∉ operators := by
      intro hmem
      have hnone : ∀ characters ∈ operators, ¬characters.any Char.isDigit = true := by decide
      exact hnone _ hmem (by simp [hc])
    refine ⟨?_, ?_, ?_, ?_⟩
    · rintro (hmem | rfl | rfl)
      · exact hoperator hmem
      · cases hc
      · cases hc
    all_goals
      rintro rfl
      cases hc

theorem operator?_eq_none {s : List Char} (h : s.head? ≠ some '>') : operator? s = none := by
  unfold operator?
  split <;> simp_all

theorem takeOperator?_eq_none {word rest : List Char} (h : StandsForItself word)
    (hspace : ∀ c ∈ rest.head?, c = ' ') : takeOperator? (skipBlanks (word ++ rest)) = none := by
  obtain ⟨hne, -, hliteral⟩ := h
  have hends (c : Char) (hc : c ∈ word) : ¬EndsWord c := (hliteral c hc).1
  have hskip : skipBlanks (word ++ rest) = word ++ rest := by
    apply skipBlanks_eq_self
    intro c hc
    rw [List.head?_append_of_ne_nil word hne] at hc
    have hc := hends c (List.mem_of_mem_head? hc)
    constructor
    all_goals
      rintro rfl
      exact hc (by decide)
  have hhead : ((word ++ rest).dropWhile Char.isDigit).head? ≠ some '>' := by
    rw [List.dropWhile_append]
    split
    · cases rest with
      | nil => simp
      | cons c rest =>
        obtain rfl : c = ' ' := hspace c rfl
        simp [List.dropWhile]
    · rename_i hrest
      rw [List.isEmpty_iff] at hrest
      rw [List.head?_append_of_ne_nil _ hrest]
      intro hmark
      have hmem := (List.dropWhile_sublist _).subset (List.mem_of_mem_head? hmark)
      exact hends '>' hmem (by decide)
  rw [hskip, takeOperator?, operator?_eq_none hhead]
  rfl

theorem reads_text_append {redirect : Redirect} (h : redirect.IsPlain) {rest : List Char}
    (hspace : ∀ c ∈ rest.head?, c = ' ') (hrest : Reads rest redirects) :
    Reads (redirect.text ++ rest) (redirect :: redirects) := by
  have hends : ∀ c ∈ rest.head?, EndsWord c := fun c hc => .inr (.inl (hspace c hc))
  obtain ⟨descriptor, target⟩ := redirect
  rw [Redirect.text, List.append_assoc]
  cases target with
  | file mode path =>
    rw [List.append_assoc, List.cons_append, reads_cons_file_iff]
    have hword : WordAt (path ++ rest) path rest := wordAt_of_standsForItself h hends
    exact ⟨takeOperator?_eq_none h hspace, path, rest, hword, rfl, hrest⟩
  | copy source =>
    have hoperator := takeOperator?_number descriptor ('&' :: (Decimal.digits source ++ rest))
    refine .cons (by rw [List.cons_append, skipBlanks_number]; exact hoperator)
      (takeOperator?_eq_none (standsForItself_digits source) hspace)
      (wordAt_of_standsForItself (standsForItself_digits source) hends) ?_ hrest
    rw [Operator.target?, Decimal.ofDigits?_digits]
    rfl

theorem written_singleton (redirect : Redirect) : written [redirect] = redirect.text := by
  rw [written, List.map_singleton, List.intercalate_singleton]

theorem written_cons_cons (first second : Redirect) (redirects : List Redirect) :
    written (first :: second :: redirects) =
      first.text ++ ' ' :: written (second :: redirects) := by
  rw [written, List.map_cons, List.map_cons, List.intercalate_cons_cons, List.append_assoc]
  rfl

/-- Redirections to files that need no quotation are read back. -/
theorem reads_written (h : ∀ redirect ∈ redirects, redirect.IsPlain) :
    Reads (written redirects) redirects := by
  induction redirects with
  | nil => exact .nil rfl
  | cons first redirects ih =>
    obtain ⟨hfirst, hplain⟩ := List.forall_mem_cons.1 h
    cases redirects with
    | nil =>
      rw [written_singleton, ← List.append_nil first.text]
      exact reads_text_append hfirst (by simp) (.nil rfl)
    | cons second redirects =>
      rw [written_cons_cons]
      exact reads_text_append hfirst (by simp) (reads_space_iff.2 (ih hplain))

end Sequences

/-! ## Files that need a quotation -/

section Files

variable {mode mode' : Mode} {path path' : List Char}

theorem reads_file_iff {descriptor : Nat} :
    Reads (Redirect.text ⟨descriptor, .file mode path⟩) [⟨descriptor, .file mode path⟩] ↔
      StandsForItself path := by
  rw [Redirect.text, reads_cons_file_iff]
  constructor
  · rintro ⟨-, word, rest, hword, hredirect, -⟩
    cases hredirect
    exact (hword.eq_append (by omega)).2
  · intro h
    have hnumber : takeOperator? (skipBlanks (path ++ [])) = none :=
      takeOperator?_eq_none h (by simp)
    have hword : WordAt (path ++ []) path [] := wordAt_of_standsForItself h (by simp)
    rw [List.append_nil] at hnumber hword
    exact ⟨hnumber, path, [], hword, rfl, .nil rfl⟩

/-- A redirection of another descriptor than the output takes up its number, its operator and its
path. -/
theorem Reads.length_file {s : List Char} {descriptor : Nat}
    (h : Reads s [⟨descriptor, .file mode path⟩]) (hdescriptor : descriptor ≠ 1) :
    1 + mode.operator.length + path.length ≤ s.length := by
  cases h with
  | @cons _ behind word rest _ operator _ _ hoperator _ hword htarget hrest =>
    have hfile : operator = .file mode ∧ word = path := by
      cases operator with
      | file mode' =>
        cases htarget
        exact ⟨rfl, rfl⟩
      | copy =>
        rw [Operator.target?] at htarget
        obtain ⟨_, -, hcopy⟩ := Option.map_eq_some_iff.1 htarget
        cases hcopy
    obtain ⟨rfl, rfl⟩ := hfile
    have hlength := length_of_takeOperator? hoperator hdescriptor
    have hskip : (skipBlanks s).length ≤ s.length := (List.dropWhile_sublist _).length_le
    have hword := hword.length_le
    omega

/-- A word that is read where the text of a path begins goes on behind the path if it is another
text than the path. -/
theorem WordAt.exists_more {s rest : List Char} (h : WordAt (path ++ s) path rest) :
    ∃ more, s = more ++ rest := by
  obtain ⟨operand, hs, hrun, -⟩ := h
  have hlong := WordAt.length_le ⟨operand, (List.append_nil operand).symm, hrun, by simp⟩
  rcases List.append_eq_append_iff.1 hs with ⟨more, -, hmore⟩ | ⟨more, hpath, hrest⟩
  · exact ⟨more, hmore⟩
  · have hlength := congrArg List.length hpath
    rw [List.length_append] at hlength
    obtain rfl : more = [] := by
      rw [← List.length_eq_zero_iff]
      simp at hlong
      omega
    exact ⟨[], hrest.symm⟩

/-- The second redirection leaves no room for quotation marks in front of it. -/
theorem reads_two_files_iff :
    Reads (written [⟨1, .file mode path⟩, ⟨2, .file mode' path'⟩])
      [⟨1, .file mode path⟩, ⟨2, .file mode' path'⟩] ↔
      StandsForItself path ∧ StandsForItself path' := by
  have htext : written [⟨1, .file mode path⟩, ⟨2, .file mode' path'⟩] =
      numberText 1 ++ (mode.operator ++ ' ' :: (path ++
        ' ' :: Redirect.text ⟨2, .file mode' path'⟩)) := by
    simp [written, Redirect.text]
  have hnumber : numberText 2 = ['2'] := by decide
  have htwo : Redirect.text ⟨2, .file mode' path'⟩ = '2' :: (mode'.operator ++ ' ' :: path') := by
    rw [Redirect.text, hnumber]
    rfl
  constructor
  · intro h
    rw [htext, reads_cons_file_iff] at h
    obtain ⟨-, word, rest, hword, hredirect, hrest⟩ := h
    cases hredirect
    have hlong := hrest.length_file (by decide)
    obtain ⟨more, hmore⟩ := hword.exists_more
    have hlength := congrArg List.length hmore
    rw [htwo] at hmore hlength
    simp only [List.length_cons, List.length_append] at hlength
    match more, hmore, hlength with
    | [], hmore, _ =>
      rw [List.nil_append] at hmore
      subst hmore
      have hpath := (hword.eq_append (by rw [htwo]; simp)).2
      exact ⟨hpath, reads_file_iff.1 (htwo ▸ reads_space_iff.1 hrest)⟩
    | [_], hmore, _ =>
      obtain ⟨-, rfl⟩ := List.cons_eq_cons.1 hmore
      obtain ⟨operand, -, -, hends⟩ := hword
      exact absurd (hends '2' rfl) (by decide)
    | [_, _], hmore, _ =>
      obtain ⟨-, hmore⟩ := List.cons_eq_cons.1 hmore
      obtain ⟨-, rfl⟩ := List.cons_eq_cons.1 hmore
      obtain ⟨-, _, _, -, hredirect, -⟩ := (@reads_cons_file_iff _ _ 1 _ _).1 hrest
      cases hredirect
    | _ :: _ :: _ :: more, _, hlength =>
      simp only [List.length_cons] at hlength
      omega
  · rintro ⟨hpath, hpath'⟩
    refine reads_written ?_
    simp [Redirect.IsPlain, hpath, hpath']

end Files

end CrontabRenderer.Shell
