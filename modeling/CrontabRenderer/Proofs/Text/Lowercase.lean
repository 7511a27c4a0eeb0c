import CrontabRenderer.Text.Lowercase
import Mathlib.Tactic.Common

/-!
# Small letters in ASCII

Of all characters, only the Kelvin sign and those of ASCII have ASCII small letters and nothing
else. So a text whose small letters are an ASCII text is that text, up to the case of ASCII letters
and to Kelvin signs (`Text.lowercase_eq_iff`).
-/
namespace CrontabRenderer.Text

def isAscii (c : Char) : Bool := c.toNat < 0x80

def kelvinSign : Char := '\u212a'

/-- The small letter of an ASCII letter. The Kelvin sign counts as a capital `K`. -/
def asciiSmall (c : Char) : Char := if c = kelvinSign then 'k' else c.toLower

theorem toLower_of_not_isAscii {c : Char} (h : isAscii c = false) : c.toLower = c := by
  apply dif_neg
  rintro ⟨-, hlast⟩
  have hlast : c.toNat ≤ 90 := UInt32.le_iff_toNat_le.1 hlast
  simp only [isAscii, decide_eq_false_iff_not] at h
  omega

theorem toNat_ofNat_of_isValidChar {n : Nat} (h : n.isValidChar) : (Char.ofNat n).toNat = n := by
  rw [Char.ofNat, dif_pos h]
  rfl

/-- The small letters of a run are characters, and beyond ASCII but for that of the Kelvin sign. -/
theorem capitalRuns_beyond_ascii : ∀ run ∈ capitalRuns,
    (run.first = kelvinSign.toNat ∧ run.last = kelvinSign.toNat) ∨
      (0x80 ≤ run.first + run.shift ∧ run.last + run.shift < 0xD800) ∨
      (0xE000 ≤ run.first + run.shift ∧ run.last + run.shift < 0x110000) := by
  decide +kernel

theorem smallLetter_of_isAscii {c : Char} (h : isAscii c = true) : smallLetter c = c.toLower := by
  rw [smallLetter, if_pos (by simpa [isAscii] using h)]

theorem smallLetter_kelvinSign : smallLetter kelvinSign = 'k' := by decide +kernel

theorem not_isAscii_smallLetter {c : Char} (h : isAscii c = false) (hkelvin : c ≠ kelvinSign) :
    isAscii (smallLetter c) = false := by
  have hbeyond : 0x80 ≤ c.toNat := by simpa [isAscii] using h
  rw [smallLetter, if_neg (by omega)]
  split
  · rename_i run hfind
    have hrun := List.mem_of_find?_eq_some hfind
    have hcontains := List.find?_some hfind
    simp only [CapitalRun.contains, Bool.and_eq_true, decide_eq_true_eq] at hcontains
    obtain ⟨⟨hfirst, hlast⟩, -⟩ := hcontains
    have hshifted : ((c.toNat + run.shift).toNat).isValidChar ∧
        0x80 ≤ (c.toNat + run.shift).toNat := by
      rcases capitalRuns_beyond_ascii run hrun with ⟨hsign, hsign'⟩ | hlow | hhigh
      · have hsame : c.toNat = kelvinSign.toNat := by omega
        rw [← Char.ofNat_toNat c, hsame, Char.ofNat_toNat] at hkelvin
        exact absurd rfl hkelvin
      · exact ⟨.inl (by omega), by omega⟩
      · exact ⟨.inr (by omega), by omega⟩
    rw [isAscii, toNat_ofNat_of_isValidChar hshifted.1, decide_eq_false_iff_not]
    omega
  · exact h

/-- What a character is in small letters, where it stands. -/
def smallAt (before : List Char) (c : Char) (after : List Char) : List Char :=
  if c = 'Σ' then [smallSigma before after]
  else if c = 'İ' then ['i', '\u0307']
  else [smallLetter c]

theorem lowercaseChars_cons (before : List Char) (c : Char) (after : List Char) :
    lowercaseChars before (c :: after) =
      smallAt before c after ++ lowercaseChars (c :: before) after := rfl

/-- In no context does a character other than these have small letters in ASCII only. -/
theorem smallAt_eq_or (before : List Char) (c : Char) (after : List Char) :
    smallAt before c after = [asciiSmall c] ∨
      isAscii (asciiSmall c) = false ∧ ∃ d ∈ smallAt before c after, isAscii d = false := by
  by_cases hsigma : c = 'Σ'
  · have hsmall : isAscii (smallSigma before after) = false := by
      rw [smallSigma]
      split <;> decide
    exact .inr ⟨by rw [hsigma]; decide, _, by simp [smallAt, hsigma], hsmall⟩
  by_cases hdotted : c = 'İ'
  · exact .inr ⟨by rw [hdotted]; decide, '\u0307', by simp [smallAt, hdotted], by decide⟩
  rw [smallAt, if_neg hsigma, if_neg hdotted, asciiSmall]
  by_cases hkelvin : c = kelvinSign
  · rw [if_pos hkelvin, hkelvin, smallLetter_kelvinSign]
    exact .inl rfl
  rw [if_neg hkelvin]
  cases hascii : isAscii c with
  | true => exact .inl (by rw [smallLetter_of_isAscii hascii])
  | false =>
    refine .inr ⟨?_, smallLetter c, by simp, not_isAscii_smallLetter hascii hkelvin⟩
    rw [toLower_of_not_isAscii hascii, hascii]

theorem lowercaseChars_eq_iff {before s name : List Char} (h : ∀ c ∈ name, isAscii c = true) :
    lowercaseChars before s = name ↔ s.map asciiSmall = name := by
  induction s generalizing before name with
  | nil => rfl
  | cons c s ih =>
    rw [lowercaseChars_cons, List.map_cons]
    rcases smallAt_eq_or before c s with hsmall | ⟨hsmall, d, hd, hbeyond⟩
    · rw [hsmall, List.singleton_append]
      cases name with
      | nil => simp
      | cons first rest =>
        rw [List.cons_eq_cons, List.cons_eq_cons, ih (List.forall_mem_cons.1 h).2]
    · constructor
      · rintro rfl
        rw [h d (List.mem_append_left _ hd)] at hbeyond
        cases hbeyond
      · rintro rfl
        rw [h (asciiSmall c) List.mem_cons_self] at hsmall
        cases hsmall

/-- A text has an ASCII text for its small letters just if it is that text, up to the case of ASCII
letters and to Kelvin signs. -/
theorem lowercase_eq_iff {s name : String} (h : ∀ c ∈ name.toList, isAscii c = true) :
    lowercase s = name ↔ s.toList.map asciiSmall = name.toList := by
  rw [← @lowercaseChars_eq_iff [] _ _ h, lowercase, ← String.toList_inj, String.toList_ofList]

end CrontabRenderer.Text
