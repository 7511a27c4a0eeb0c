import CrontabRenderer.Decimal.Digits
import Mathlib.Data.List.Induction
import Mathlib.Tactic.Common

/-!
# Decimal digits

Which texts are read as decimal digits, and as what (`ofDigits?_eq_some_iff`). A number is written
without needless zeros (`isCanonical_digits`), so reading digits and writing the number gives the
same digits just if there is no needless zero in front (`digits_eq_iff`).
-/
namespace CrontabRenderer.Decimal

variable {c : Char} {s : List Char} {n : Nat}

theorem isDigit_of_digitValue? {digit : Nat} (h : digitValue? c = some digit)
    (hdigit : digit < 10) : c.isDigit = true := by
  unfold digitValue? at h
  split at h
  · assumption
  · split at h
    · obtain rfl := Option.some.inj h
      omega
    · split at h
      · obtain rfl := Option.some.inj h
        omega
      · cases h

theorem isDigit_iff : c.isDigit = true ↔ '0'.toNat ≤ c.toNat ∧ c.toNat ≤ '9'.toNat := by
  simp only [Char.isDigit, Bool.and_eq_true, decide_eq_true_eq, ge_iff_le, UInt32.le_iff_toNat_le]
  rfl

theorem toNat_sub_lt_ten (hc : c.isDigit = true) : c.toNat - '0'.toNat < 10 := by
  have hnine : '9'.toNat = '0'.toNat + 9 := rfl
  have hlast := (isDigit_iff.1 hc).2
  omega

/-- One step of reading digits from the left. -/
def nextValue? (value : Option Nat) (c : Char) : Option Nat := do
  let value ← value
  let digit ← digitValue? c
  if digit < 10 then some (value * 10 + digit) else none

/-- A digit moves the value read so far one place up. -/
theorem nextValue?_some (value : Nat) (c : Char) :
    nextValue? (some value) c =
      if c.isDigit = true then some (10 * value + (c.toNat - '0'.toNat)) else none := by
  have hnext : nextValue? (some value) c = (digitValue? c).bind fun digit =>
      if digit < 10 then some (value * 10 + digit) else none := rfl
  rw [hnext]
  by_cases hc : c.isDigit = true
  · have hvalue : digitValue? c = some (c.toNat - '0'.toNat) := if_pos hc
    rw [hvalue, Option.bind_some, if_pos (toNat_sub_lt_ten hc), if_pos hc, Nat.mul_comm]
  · rw [if_neg hc]
    cases hvalue : digitValue? c with
    | none => rfl
    | some digit => exact if_neg fun hdigit => hc (isDigit_of_digitValue? hvalue hdigit)

theorem foldl_nextValue?_none (s : List Char) : s.foldl nextValue? none = none := by
  induction s with
  | nil => rfl
  | cons c s ih => exact ih

theorem foldl_nextValue?_eq_some_iff (value : Nat) :
    s.foldl nextValue? (some value) = some n ↔
      (∀ c ∈ s, c.isDigit = true) ∧ n = Nat.ofDigitChars 10 s value := by
  induction s generalizing value with
  | nil =>
    rw [List.foldl_nil, Nat.ofDigitChars_nil, Option.some_inj, eq_comm]
    simp
  | cons c s ih =>
    rw [List.foldl_cons, List.forall_mem_cons, Nat.ofDigitChars_cons, nextValue?_some]
    by_cases hc : c.isDigit = true
    · rw [if_pos hc, ih, and_iff_right hc]
    · rw [if_neg hc, foldl_nextValue?_none]
      simp [hc]

theorem ofDigits?_eq_some_iff :
    ofDigits? 10 s = some n ↔
      s ≠ [] ∧ (∀ c ∈ s, c.isDigit = true) ∧ n = Nat.ofDigitChars 10 s 0 := by
  have hread : ofDigits? 10 s = if s.isEmpty then none else s.foldl nextValue? (some 0) := rfl
  rw [hread, Option.ite_none_left_eq_some, foldl_nextValue?_eq_some_iff, List.isEmpty_iff]

/-- Only digits make a number. -/
theorem isDigit_of_ofDigits? (h : ofDigits? 10 s = some n) : ∀ c ∈ s, c.isDigit = true :=
  (ofDigits?_eq_some_iff.1 h).2.1

/-- Digits without a zero that could be left out. -/
def IsCanonical (s : List Char) : Prop :=
  s = ['0'] ∨ (s ≠ [] ∧ (∀ c ∈ s, c.isDigit = true) ∧ s.head? ≠ some '0')

theorem IsCanonical.isDigit (h : IsCanonical s) : ∀ c ∈ s, c.isDigit = true := by
  rcases h with rfl | ⟨-, hdigit, -⟩
  · simp
  · exact hdigit

theorem digits_eq_concat (hn : 10 ≤ n) :
    digits n = digits (n / 10) ++ [(n % 10).digitChar] :=
  Nat.toDigits_of_base_le (by decide) hn

theorem head?_digits (hn : n ≠ 0) : (digits n).head? ≠ some '0' := by
  induction n using Nat.strongRecOn with
  | ind n ih =>
    by_cases hten : n < 10
    · rw [digits, Nat.toDigits_of_lt_base hten]
      simpa [Nat.digitChar_eq_zero] using hn
    · have hrest : digits (n / 10) ≠ [] := Nat.toDigits_ne_nil
      obtain ⟨first, rest, hfirst⟩ := List.exists_cons_of_ne_nil hrest
      have hhead := ih (n / 10) (by omega) (by omega)
      rw [hfirst] at hhead
      rw [digits_eq_concat (by omega), hfirst]
      exact hhead

theorem isCanonical_digits (n : Nat) : IsCanonical (digits n) := by
  by_cases hn : n = 0
  · subst hn
    exact .inl rfl
  · refine .inr ⟨Nat.toDigits_ne_nil, fun c hc => ?_, head?_digits hn⟩
    exact Nat.isDigit_of_mem_toDigits (by decide) (by decide) hc

theorem ofDigits?_digits (n : Nat) : ofDigits? 10 (digits n) = some n := by
  refine ofDigits?_eq_some_iff.2 ⟨Nat.toDigits_ne_nil, fun c hc => ?_, ?_⟩
  · exact Nat.isDigit_of_mem_toDigits (by decide) (by decide) hc
  · exact Nat.ofDigitChars_ten_toDigits.symm

theorem digitChar_toNat_sub (hc : c.isDigit = true) : (c.toNat - '0'.toNat).digitChar = c := by
  obtain ⟨hfirst, hlast⟩ := isDigit_iff.1 hc
  have hzero : '0'.toNat = 48 := rfl
  have hnine : '9'.toNat = 57 := rfl
  apply Char.toNat_inj.1
  rw [Nat.toNat_digitChar_of_lt_ten (by omega)]
  omega

theorem ofDigitChars_pos (hdigit : ∀ c ∈ s, c.isDigit = true) (hs : s ≠ [])
    (hhead : s.head? ≠ some '0') : 0 < Nat.ofDigitChars 10 s 0 := by
  obtain ⟨c, rest, rfl⟩ := List.exists_cons_of_ne_nil hs
  have hc := hdigit c List.mem_cons_self
  have hfirst : c.toNat - '0'.toNat ≠ 0 := by
    intro hzero
    have hchar := digitChar_toNat_sub hc
    rw [hzero] at hchar
    exact hhead (by rw [← hchar]; rfl)
  rw [Nat.ofDigitChars_cons, Nat.ofDigitChars_eq_ofDigitChars_zero]
  have hplace : 0 < 10 ^ rest.length * (10 * 0 + (c.toNat - '0'.toNat)) :=
    Nat.mul_pos (Nat.pow_pos (by decide)) (by omega)
  omega

/-- The induction adds digits at the end, where a number grows. -/
theorem digits_ofDigitChars (hs : IsCanonical s) : digits (Nat.ofDigitChars 10 s 0) = s := by
  rcases hs with rfl | ⟨hne, hdigit, hhead⟩
  · rfl
  induction s using List.reverseRecOn with
  | nil => exact absurd rfl hne
  | append_singleton front c ih =>
    have hc := hdigit c (by simp)
    have hten := toNat_sub_lt_ten hc
    rw [Nat.ofDigitChars_append, Nat.ofDigitChars_cons, Nat.ofDigitChars_nil]
    by_cases hfront : front = []
    · subst hfront
      rw [Nat.ofDigitChars_nil, Nat.mul_zero, Nat.zero_add, digits, Nat.toDigits_of_lt_base hten,
        digitChar_toNat_sub hc]
      rfl
    · have hdigit : ∀ c ∈ front, c.isDigit = true :=
        fun c hc => hdigit c (List.mem_append_left _ hc)
      have hhead : front.head? ≠ some '0' := by
        obtain ⟨first, rest, rfl⟩ := List.exists_cons_of_ne_nil hfront
        exact hhead
      rw [digits, ← Nat.toDigits_append_toDigits (by decide) (ofDigitChars_pos hdigit hfront hhead)
        hten, ← digits, ih hfront hdigit hhead, Nat.toDigits_of_lt_base hten,
        digitChar_toNat_sub hc]

/-- The digits that are read are those that are written, unless there is a needless zero. -/
theorem digits_eq_iff (h : ofDigits? 10 s = some n) : digits n = s ↔ IsCanonical s := by
  constructor
  · rintro rfl
    exact isCanonical_digits n
  · intro hs
    rw [(ofDigits?_eq_some_iff.1 h).2.2, digits_ofDigitChars hs]

end CrontabRenderer.Decimal
