import CrontabRenderer.Proofs.Decimal.Digits
import CrontabRenderer.Proofs.Decimal.Shortest
import CrontabRenderer.Template
import CrontabRenderer.Yaml.Value

/-!
# Spellings of numbers

A number has one canonical spelling (`Number.IsSpelling`): an integer has decimal digits without
needless zeros, and a minus sign if it is negative; a finite floating-point number has the digits of
its shortest decimal. A text that is read as a number is the text of the number just if it is the
canonical spelling (`Number.text_eq_iff`).
-/
namespace CrontabRenderer

namespace Number

/-- Decimal digits without needless zeros. Only a number other than zero may have a minus sign. -/
def IsIntegerSpelling (s : List Char) : Prop :=
  Decimal.IsCanonical s ∨ ∃ digits, s = '-' :: digits ∧ Decimal.IsCanonical digits ∧ digits ≠ ['0']

/-- The sign bit is set. -/
def isNegative (x : Float) : Prop := signBit ≤ x.toBits.toNat

/-- The number is zero, with or without a sign. -/
def isZero (x : Float) : Prop := x.toBits.toNat % signBit = 0

/-- The spelling of a finite number without its sign: the digits of its shortest decimal, with a
point or an exponent. -/
def IsMagnitudeSpelling (x : Float) (s : List Char) : Prop :=
  (isZero x ∧ s = "0.0".toList) ∨
    (¬isZero x ∧ ∃ d, (Decimal.Binary.ofBits x.toBits).IsShortest d ∧ s = layout.write d)

def IsFiniteSpelling (x : Float) (s : List Char) : Prop :=
  (isNegative x ∧ ∃ magnitude, s = '-' :: magnitude ∧ IsMagnitudeSpelling x magnitude) ∨
    (¬isNegative x ∧ IsMagnitudeSpelling x s)

def IsFloatSpelling (x : Float) (s : List Char) : Prop :=
  if x.isNaN then s = ".nan".toList
  else if x.isInf then s = (if x < 0 then "-.inf" else ".inf").toList
  else IsFiniteSpelling x s

/-- A text is the canonical spelling of a number. For an integer, the text alone tells. -/
def IsSpelling (s : List Char) : Number → Prop
  | .integer _ => IsIntegerSpelling s
  | .float x => IsFloatSpelling x s

end Number

namespace Yaml.Value

/-- The number that a value is, if it is one. -/
def number? : Value → Option Number
  | .integer n => some (.integer n.value)
  | .float x => some (.float x)
  | _ => none

theorem number?_eq_some_iff {value : Value} {number : Number} :
    value.number? = some number ↔
      (∃ n, value = .integer n ∧ number = .integer n.value) ∨
        ∃ x, value = .float x ∧ number = .float x := by
  cases value <;> simp [number?, eq_comm]

theorem magnitude?_of_isDigit {digits : List Char} (h : ∀ c ∈ digits, c.isDigit = true) :
    magnitude? digits = Decimal.ofDigits? 10 digits := by
  unfold magnitude?
  split
  · exact absurd (h 'x' (by simp)) (by decide)
  · exact absurd (h 'o' (by simp)) (by decide)
  · exact absurd (h 'b' (by simp)) (by decide)
  · rfl

theorem ofFloatOrText_ne_integer {s : String} {n : Integer} : ofFloatOrText s ≠ .integer n := by
  unfold ofFloatOrText
  split
  · simp
  · split <;> simp

theorem integer?_of_ofPlain {s : String} {n : Integer} (h : ofPlain s = .ok (.integer n)) :
    integer? s.toList = some n := by
  unfold ofPlain at h
  split at h
  · cases h
  · split at h
    · cases h
    · split at h
      · rename_i written hwritten
        split at h
        · cases h
          exact hwritten
        · split at h
          · cases h
          · exact absurd (Except.ok.inj h) ofFloatOrText_ne_integer
      · exact absurd (Except.ok.inj h) ofFloatOrText_ne_integer

end Yaml.Value

namespace Number

open Yaml

/-! ## Integers -/

theorem integerText_natCast (n : Nat) : integerText n = Decimal.digits n := by
  simp [integerText]

theorem integerText_neg {n : Nat} (hn : n ≠ 0) : integerText (-(n : Int)) = '-' :: Decimal.digits n := by
  have hneg : -(n : Int) < 0 := by omega
  rw [integerText, if_pos hneg, Int.natAbs_neg, Int.natAbs_natCast]
  rfl

theorem digits_ne_zero {n : Nat} (hn : n ≠ 0) : Decimal.digits n ≠ ['0'] := by
  intro hzero
  have hread := Decimal.ofDigits?_digits n
  rw [hzero] at hread
  have hvalue : 0 = n := Option.some.inj hread
  exact hn hvalue.symm

theorem isIntegerSpelling_integerText (value : Int) : IsIntegerSpelling (integerText value) := by
  obtain ⟨n, rfl | rfl⟩ := value.eq_nat_or_neg
  · rw [integerText_natCast]
    exact .inl (Decimal.isCanonical_digits n)
  · by_cases hn : n = 0
    · subst hn
      exact .inl (.inl rfl)
    · rw [integerText_neg hn]
      exact .inr ⟨_, rfl, Decimal.isCanonical_digits n, digits_ne_zero hn⟩

/-- Digits in canonical form are read as a decimal number without a sign. -/
theorem integer?_of_isCanonical {s : List Char} {n : Integer} (h : Value.integer? s = some n)
    (hs : Decimal.IsCanonical s) :
    n.negative = false ∧ Decimal.ofDigits? 10 s = some n.magnitude := by
  have hdigit := hs.isDigit
  unfold Value.integer? at h
  split at h
  · cases h
  · split at h
    · exact absurd (hdigit '-' List.mem_cons_self) (by decide)
    · exact absurd (hdigit '+' List.mem_cons_self) (by decide)
    · rw [Value.magnitude?_of_isDigit hdigit, Option.map_eq_some_iff] at h
      obtain ⟨magnitude, hmagnitude, rfl⟩ := h
      exact ⟨rfl, hmagnitude⟩

theorem integer?_minus {digits : List Char} {n : Integer}
    (h : Value.integer? ('-' :: digits) = some n) (hs : Decimal.IsCanonical digits) :
    n.negative = true ∧ Decimal.ofDigits? 10 digits = some n.magnitude := by
  unfold Value.integer? at h
  split at h
  · cases h
  · simp only [Value.magnitude?_of_isDigit hs.isDigit, Option.map_eq_some_iff] at h
    obtain ⟨magnitude, hmagnitude, rfl⟩ := h
    exact ⟨rfl, hmagnitude⟩

/-- An integer keeps its spelling just if that has no plus sign, no base, no needless zero, and no
minus sign in front of a zero. -/
theorem integerText_eq_iff {s : List Char} {n : Integer} (h : Value.integer? s = some n) :
    integerText n.value = s ↔ IsIntegerSpelling s := by
  constructor
  · rintro rfl
    exact isIntegerSpelling_integerText n.value
  · rintro (hs | ⟨digits, rfl, hs, hne⟩)
    · obtain ⟨hsign, hmagnitude⟩ := integer?_of_isCanonical h hs
      rw [Integer.value, hsign, if_neg (by decide), integerText_natCast]
      exact (Decimal.digits_eq_iff hmagnitude).2 hs
    · obtain ⟨hsign, hmagnitude⟩ := integer?_minus h hs
      have hdigits := (Decimal.digits_eq_iff hmagnitude).2 hs
      have hzero : n.magnitude ≠ 0 := by
        intro hzero
        rw [hzero] at hdigits
        exact hne hdigits.symm
      rw [Integer.value, hsign, if_pos rfl, integerText_neg hzero, hdigits]

/-! ## Floating-point numbers -/

theorem isMagnitudeSpelling_iff {x : Float} {s : List Char} :
    IsMagnitudeSpelling x s ↔ s = if x.toBits.toNat % signBit = 0 then ['0', '.', '0']
      else layout.write (Decimal.Binary.ofBits x.toBits).shortest := by
  by_cases hzero : isZero x
  · have hbits : x.toBits.toNat % signBit = 0 := hzero
    simp [IsMagnitudeSpelling, hzero, hbits]
  · have hbits : ¬x.toBits.toNat % signBit = 0 := hzero
    have hshortest := Decimal.Binary.isShortest_shortest (Decimal.Binary.isDouble_ofBits hbits)
    simp only [IsMagnitudeSpelling, hzero, false_and, not_false_eq_true, true_and, false_or,
      if_neg hbits]
    generalize (Decimal.Binary.ofBits x.toBits).shortest = found at hshortest ⊢
    constructor
    · rintro ⟨d, hd, rfl⟩
      rw [hd.unique hshortest]
    · rintro rfl
      exact ⟨found, hshortest, rfl⟩

theorem floatText_eq_iff {x : Float} {s : List Char} :
    floatText x = s ↔ IsFiniteSpelling x s := by
  unfold IsFiniteSpelling
  simp only [isMagnitudeSpelling_iff]
  by_cases hsign : isNegative x
  · have hbits : signBit ≤ x.toBits.toNat := hsign
    simp [floatText, hsign, hbits, eq_comm]
  · have hbits : ¬signBit ≤ x.toBits.toNat := hsign
    simp [floatText, hsign, hbits, eq_comm]

theorem text_float_eq_iff {x : Float} {s : String} :
    (Number.float x).text = s ↔ IsFloatSpelling x s.toList := by
  have hsymm {t : String} : t = s ↔ s.toList = t.toList := by
    rw [String.toList_inj, eq_comm]
  rw [text, IsFloatSpelling]
  split
  · exact hsymm
  · split
    · exact hsymm
    · rw [← floatText_eq_iff, ← String.toList_inj, String.toList_ofList]

/-! ## Texts of numbers -/

/-- A text that is read as a number is kept just if it is the canonical spelling. -/
theorem text_eq_iff {s : String} {value : Value} {n : Number}
    (hread : Value.ofPlain s = .ok value) (hnumber : value.number? = some n) :
    n.text = s ↔ IsSpelling s.toList n := by
  rcases Value.number?_eq_some_iff.1 hnumber with ⟨written, rfl, rfl⟩ | ⟨x, rfl, rfl⟩
  · rw [text, ← String.toList_inj, String.toList_ofList]
    exact integerText_eq_iff (Value.integer?_of_ofPlain hread)
  · exact text_float_eq_iff

/-! ## Characters -/

/-- Digits, signs and points, and the letters of exponents and of the numbers that are not finite. -/
def isNumberChar (c : Char) : Bool := c.isDigit || c ∈ ['-', '.', 'e', 'i', 'n', 'f', 'a']

theorem isNumberChar_digits (n : Nat) : (Decimal.digits n).all isNumberChar = true := by
  refine List.all_eq_true.2 fun c hc => ?_
  have hdigit : c.isDigit = true := Nat.isDigit_of_mem_toDigits (by decide) (by decide) hc
  rw [isNumberChar, hdigit, Bool.true_or]

theorem isNumberChar_zeros (n : Nat) : (List.replicate n '0').all isNumberChar = true := by
  refine List.all_eq_true.2 fun c hc => ?_
  rw [List.eq_of_mem_replicate hc]
  rfl

theorem isNumberChar_write (layout : Layout) (d : Decimal.Shortest) :
    (layout.write d).all isNumberChar = true := by
  have hdigits := isNumberChar_digits d.digits
  have htake (n : Nat) : ((Decimal.digits d.digits).take n).all isNumberChar = true :=
    List.all_eq_true.2 fun c hc => List.all_eq_true.1 hdigits c (List.mem_of_mem_take hc)
  have hdrop (n : Nat) : ((Decimal.digits d.digits).drop n).all isNumberChar = true :=
    List.all_eq_true.2 fun c hc => List.all_eq_true.1 hdigits c (List.mem_of_mem_drop hc)
  unfold Layout.write
  extract_lets ds place power sign fraction
  split
  · simp only [List.all_append, Bool.and_eq_true]
    exact ⟨⟨hdigits, isNumberChar_zeros _⟩, rfl⟩
  split
  · simp only [List.all_append, Bool.and_eq_true]
    exact ⟨⟨htake _, rfl⟩, hdrop _⟩
  split
  · simp only [List.all_append, Bool.and_eq_true]
    exact ⟨⟨rfl, isNumberChar_zeros _⟩, hdigits⟩
  · have hsign : sign.all isNumberChar = true := by
      simp only [sign]
      split <;> rfl
    have hfraction : fraction.all isNumberChar = true := by
      simp only [fraction]
      split
      · rfl
      · exact hdrop 1
    simp only [List.all_append, Bool.and_eq_true]
    exact ⟨⟨⟨⟨htake 1, hfraction⟩, rfl⟩, hsign⟩, isNumberChar_digits _⟩

theorem isNumberChar_text (n : Number) : n.text.toList.all isNumberChar = true := by
  have hminus (p : Prop) [Decidable p] :
      (if p then ['-'] else []).all isNumberChar = true := by
    split <;> rfl
  cases n with
  | integer value =>
    rw [text, String.toList_ofList, integerText, List.all_append, hminus, isNumberChar_digits]
    rfl
  | float x =>
    rw [text]
    split
    · rfl
    split
    · split <;> rfl
    rw [String.toList_ofList, floatText, List.all_append, hminus, Bool.true_and]
    split
    · rfl
    · exact isNumberChar_write _ _

/-- There is no quotation mark in the text of a number. -/
theorem mark_notMem_text (n : Number) (quote : Template.Quote) : quote.mark ∉ n.text.toList := by
  intro hmark
  have hchar := List.all_eq_true.1 (isNumberChar_text n) _ hmark
  cases quote <;> cases hchar

end Number

end CrontabRenderer
