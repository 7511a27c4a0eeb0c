/-!
# Blanks and words

The blanks are the characters with the property White_Space. Squishing writes the words of a text
with one space between them, so that two texts with the same words are squished alike.
-/
namespace CrontabRenderer.Text

/-- The character has the property White_Space. -/
def isBlank (c : Char) : Bool :=
  let n := c.toNat
  (0x9 ≤ n && n ≤ 0xD) || n == 0x20 || n == 0x85 || n == 0xA0 || n == 0x1680 ||
    (0x2000 ≤ n && n ≤ 0x200A) || n == 0x2028 || n == 0x2029 || n == 0x202F || n == 0x205F ||
    n == 0x3000

/-- The pieces of a text between the characters of a class: `n` such characters leave `n + 1`. -/
def cutAt (separates : Char → Bool) (s : List Char) : List (List Char) :=
  s.foldr (fun c pieces =>
    if separates c then [] :: pieces
    else match pieces with
      | [] => [[c]]
      | piece :: rest => (c :: piece) :: rest) [[]]

/-- The text before and after the first `mark`, if there is one. -/
def splitOnce (mark : Char) (s : List Char) : Option (List Char × List Char) :=
  match s.dropWhile (· != mark) with
  | [] => none
  | _ :: after => some (s.takeWhile (· != mark), after)

def wordsOf (s : List Char) : List (List Char) :=
  (cutAt isBlank s).filter (!·.isEmpty)

def squishChars (s : List Char) : List Char :=
  [' '].intercalate (wordsOf s)

/-- Drops the blanks at both ends. -/
def trimChars (s : List Char) : List Char :=
  ((s.dropWhile isBlank).reverse.dropWhile isBlank).reverse

def words (s : String) : List String := (wordsOf s.toList).map String.ofList

def squish (s : String) : String := .ofList (squishChars s.toList)

def trim (s : String) : String := .ofList (trimChars s.toList)

theorem cutAt_cons (separates : Char → Bool) (c : Char) (s : List Char) :
    cutAt separates (c :: s) =
      if separates c then [] :: cutAt separates s
      else match cutAt separates s with
        | [] => [[c]]
        | piece :: rest => (c :: piece) :: rest := rfl

/-- The separators are in no piece. -/
theorem not_separates_of_mem_cutAt {separates : Char → Bool} {s piece : List Char}
    (h : piece ∈ cutAt separates s) : ∀ c ∈ piece, separates c = false := by
  induction s generalizing piece with
  | nil => simp [cutAt] at h; simp [h]
  | cons c s ih =>
    rw [cutAt_cons] at h
    split at h
    · rcases List.mem_cons.1 h with rfl | h
      · simp
      · exact ih h
    · rename_i hc
      split at h
      · simp only [List.mem_singleton] at h
        subst h
        simpa using hc
      · rename_i first rest hcut
        rcases List.mem_cons.1 h with rfl | h
        · intro d hd
          rcases List.mem_cons.1 hd with rfl | hd
          · simpa using hc
          · exact ih (hcut ▸ List.mem_cons_self) d hd
        · exact ih (hcut ▸ List.mem_cons_of_mem _ h)

theorem ne_nil_of_mem_wordsOf {s word : List Char} (h : word ∈ wordsOf s) : word ≠ [] := by
  simpa using (List.mem_filter.1 h).2

/-- A word has no blank. -/
theorem not_isBlank_of_mem_wordsOf {s word : List Char} (h : word ∈ wordsOf s) :
    ∀ c ∈ word, isBlank c = false :=
  not_separates_of_mem_cutAt (List.mem_filter.1 h).1

/-- Every `mark` of the text is written as `replacement`. -/
def replaceChar (mark : Char) (replacement : List Char) (s : List Char) : List Char :=
  s.flatMap fun c => if c = mark then replacement else [c]

@[simp] theorem replaceChar_nil (mark : Char) (replacement : List Char) :
    replaceChar mark replacement [] = [] := rfl

@[simp] theorem replaceChar_append (mark : Char) (replacement s t : List Char) :
    replaceChar mark replacement (s ++ t) =
      replaceChar mark replacement s ++ replaceChar mark replacement t := by
  simp [replaceChar]

end CrontabRenderer.Text
