import CrontabRenderer.Decimal.Shortest
import Mathlib.Algebra.Order.Field.Power
import Mathlib.Algebra.Order.Field.Rat
import Mathlib.Algebra.Order.Ring.Abs
import Mathlib.Tactic.FieldSimp
import Mathlib.Tactic.Linarith
import Mathlib.Tactic.NormNum
import Mathlib.Tactic.Positivity
import Mathlib.Tactic.Ring

/-!
# The shortest decimal is one

What it is to be the shortest decimal of a binary number (`Binary.IsShortest`), in terms of exact
numbers: it rounds to the number, no decimal on a coarser grid does, and none on its grid is
nearer. There is one only (`Binary.IsShortest.unique`), it has no zero at its end
(`Binary.IsShortest.not_dvd`), and the search over the grids finds it (`Binary.isShortest_shortest`).
-/
namespace CrontabRenderer.Decimal

/-! ## Rounding -/

def Shortest.value (d : Shortest) : ℚ := d.digits * 10 ^ d.exponent

namespace Binary

def value (x : Binary) : ℚ := x.mantissa * 2 ^ x.exponent

/-- The distance to the next smaller number. Below a power of two the numbers are twice as dense,
unless they are the smallest of all. -/
def gapBelow (x : Binary) : ℚ :=
  if x.mantissa = unit ∧ -1074 < x.exponent then 2 ^ x.exponent / 2 else 2 ^ x.exponent

/-- What lies nearer to the number than to its neighbours. What lies halfway rounds to the number
with the even mantissa. -/
def Rounds (x : Binary) (q : ℚ) : Prop :=
  if x.mantissa % 2 = 0 then x.value - x.gapBelow / 2 ≤ q ∧ q ≤ x.value + 2 ^ x.exponent / 2
  else x.value - x.gapBelow / 2 < q ∧ q < x.value + 2 ^ x.exponent / 2

/-- One decimal is nearer to the number than the other; a tie goes to even digits. -/
def IsNearer (x : Binary) (d d' : Shortest) : Prop :=
  |x.value - d.value| < |x.value - d'.value| ∨
    (|x.value - d.value| = |x.value - d'.value| ∧ d.digits % 2 = 0 ∧ d'.digits % 2 = 1)

/-- Of the decimals that round to a number, the one with the greatest exponent, and of several such
the one nearest to the number. -/
structure IsShortest (x : Binary) (d : Shortest) : Prop where
  pos : 0 < d.digits
  rounds : x.Rounds d.value
  coarsest : ∀ d' : Shortest, 0 < d'.digits → x.Rounds d'.value → d'.exponent ≤ d.exponent
  nearest : ∀ d' : Shortest, 0 < d'.digits → x.Rounds d'.value → d'.exponent = d.exponent →
    d' ≠ d → x.IsNearer d d'

theorem IsShortest.unique {x : Binary} {d d' : Shortest} (h : x.IsShortest d)
    (h' : x.IsShortest d') : d = d' := by
  by_contra hne
  have hexponent : d'.exponent = d.exponent :=
    le_antisymm (h.coarsest d' h'.pos h'.rounds) (h'.coarsest d h.pos h.rounds)
  rcases h.nearest d' h'.pos h'.rounds hexponent (Ne.symm hne) with hlt | ⟨heq, -, hodd⟩
  · rcases h'.nearest d h.pos h.rounds hexponent.symm hne with hlt' | ⟨heq', -, -⟩
    · exact lt_asymm hlt hlt'
    · exact hlt.ne heq'.symm
  · rcases h'.nearest d h.pos h.rounds hexponent.symm hne with hlt' | ⟨-, heven, -⟩
    · exact hlt'.ne heq.symm
    · omega

/-- A zero at the end could be left out on a coarser grid. -/
theorem IsShortest.not_dvd {x : Binary} {d : Shortest} (h : x.IsShortest d) : ¬10 ∣ d.digits := by
  rintro ⟨n, hn⟩
  have hvalue : (⟨n, d.exponent + 1⟩ : Shortest).value = d.value := by
    simp only [Shortest.value, hn]
    rw [zpow_add_one₀ (by norm_num)]
    push_cast
    ring
  have hpos := h.pos
  have hcoarser := h.coarsest ⟨n, d.exponent + 1⟩ (by simp only; omega) (hvalue ▸ h.rounds)
  simp only at hcoarser
  omega

theorem Rounds.of_between {x : Binary} {a b q : ℚ} (ha : x.Rounds a) (hb : x.Rounds b)
    (haq : a ≤ q) (hqb : q ≤ b) : x.Rounds q := by
  unfold Rounds at *
  split at ha
  · rename_i heven
    rw [if_pos heven] at hb ⊢
    exact ⟨ha.1.trans haq, hqb.trans hb.2⟩
  · rename_i hodd
    rw [if_neg hodd] at hb ⊢
    exact ⟨ha.1.trans_le haq, hqb.trans_lt hb.2⟩

theorem rounds_of_lt {x : Binary} {q : ℚ} (hlow : x.value - x.gapBelow / 2 < q)
    (hhigh : q < x.value + 2 ^ x.exponent / 2) : x.Rounds q := by
  unfold Rounds
  split
  · exact ⟨hlow.le, hhigh.le⟩
  · exact ⟨hlow, hhigh⟩

theorem Rounds.le {x : Binary} {q : ℚ} (h : x.Rounds q) : q ≤ x.value + 2 ^ x.exponent / 2 := by
  unfold Rounds at h
  split at h
  · exact h.2
  · exact h.2.le

theorem gapBelow_pos (x : Binary) : 0 < x.gapBelow := by
  unfold gapBelow
  split <;> positivity

theorem rounds_value (x : Binary) : x.Rounds x.value := by
  have hbelow := x.gapBelow_pos
  have habove : (0 : ℚ) < 2 ^ x.exponent := by positivity
  exact rounds_of_lt (by linarith) (by linarith)

/-! ## One grid -/

section Grid

variable (x : Binary) (exponent : Int)

/-- How many units of measure a quarter of the last binary place is. -/
def scale : Nat := Nat.pow 2 (x.exponent - 2).toNat * Nat.pow 10 (-exponent).toNat

/-- How many units of measure lie between two points of the grid. -/
def width : Nat := Nat.pow 2 (-(x.exponent - 2)).toNat * Nat.pow 10 exponent.toNat

def center : Nat := 4 * x.mantissa * x.scale exponent

def below : Nat := x.center exponent / x.width exponent

def roundsOn (multiple : Nat) : Bool :=
  let low := (4 * x.mantissa - (if x.mantissa = unit && -1074 < x.exponent then 1 else 2)) *
    x.scale exponent
  let high := (4 * x.mantissa + 2) * x.scale exponent
  let point := multiple * x.width exponent
  0 < multiple &&
    if x.mantissa % 2 = 0 then low ≤ point && point ≤ high else low < point && point < high

/-- The nearer one of the points next to the number. -/
def nearer : Nat :=
  let toBelow := x.center exponent - x.below exponent * x.width exponent
  let toAbove := (x.below exponent + 1) * x.width exponent - x.center exponent
  if toBelow < toAbove then x.below exponent
  else if toAbove < toBelow then x.below exponent + 1
  else if x.below exponent % 2 = 0 then x.below exponent else x.below exponent + 1

theorem onGrid?_eq : x.onGrid? exponent =
    match x.roundsOn exponent (x.below exponent), x.roundsOn exponent (x.below exponent + 1) with
    | false, false => none
    | true, false => some ⟨x.below exponent, exponent⟩
    | false, true => some ⟨x.below exponent + 1, exponent⟩
    | true, true => some ⟨x.nearer exponent, exponent⟩ :=
  rfl

/-- How many units of measure there are in the number one. -/
def perOne : ℚ := 2 ^ (-(x.exponent - 2)).toNat * 10 ^ (-exponent).toNat

theorem perOne_pos : 0 < x.perOne exponent := by
  unfold perOne
  positivity

theorem zpow_mul_pow_toNat_neg {base : ℚ} (hbase : base ≠ 0) (k : ℤ) :
    base ^ k * base ^ (-k).toNat = base ^ k.toNat := by
  rw [← zpow_natCast, ← zpow_natCast (n := k.toNat), ← zpow_add₀ hbase]
  congr 1
  omega

theorem scale_eq : (x.scale exponent : ℚ) = 2 ^ (x.exponent - 2) * x.perOne exponent := by
  rw [perOne, ← mul_assoc, zpow_mul_pow_toNat_neg (by norm_num)]
  simp [scale]

theorem width_eq : (x.width exponent : ℚ) = 10 ^ exponent * x.perOne exponent := by
  rw [perOne, mul_left_comm, zpow_mul_pow_toNat_neg (by norm_num)]
  simp [width]

theorem width_pos : 0 < x.width exponent := by
  have hwidth : (0 : ℚ) < x.width exponent := by
    rw [width_eq]
    have hperOne := x.perOne_pos exponent
    positivity
  exact_mod_cast hwidth

theorem quarter_eq : (2 : ℚ) ^ (x.exponent - 2) = 2 ^ x.exponent / 4 := by
  rw [zpow_sub₀ (by norm_num)]
  norm_num

theorem center_eq : (x.center exponent : ℚ) = x.value * x.perOne exponent := by
  rw [center, Nat.cast_mul, scale_eq, quarter_eq, value]
  push_cast
  ring

theorem point_eq (n : Nat) :
    ((n * x.width exponent : Nat) : ℚ) = n * 10 ^ exponent * x.perOne exponent := by
  rw [Nat.cast_mul, width_eq, mul_assoc]

theorem below_mul_width_le : x.below exponent * x.width exponent ≤ x.center exponent :=
  Nat.div_mul_le_self _ _

theorem center_lt : x.center exponent < (x.below exponent + 1) * x.width exponent :=
  (Nat.div_lt_iff_lt_mul (x.width_pos exponent)).1 (Nat.lt_succ_self _)

variable {x exponent}

theorem roundsOn_iff (hmantissa : 0 < x.mantissa) {n : Nat} :
    x.roundsOn exponent n = true ↔ 0 < n ∧ x.Rounds (n * 10 ^ exponent) := by
  have hone := x.perOne_pos exponent
  have hpoint := x.point_eq exponent n
  set quarters : Nat := if x.mantissa = unit ∧ -1074 < x.exponent then 1 else 2 with hquarters
  have hgap : x.gapBelow / 2 = quarters * (2 ^ x.exponent / 4) := by
    rw [gapBelow, hquarters]
    split
    · push_cast
      ring
    · push_cast
      ring
  have hle : quarters ≤ 4 * x.mantissa := by
    rw [hquarters]
    split <;> omega
  have hlow : (((4 * x.mantissa - quarters) * x.scale exponent : Nat) : ℚ) =
      (x.value - x.gapBelow / 2) * x.perOne exponent := by
    rw [Nat.cast_mul, Nat.cast_sub hle, scale_eq, quarter_eq, hgap, value]
    push_cast
    ring
  have hhigh : (((4 * x.mantissa + 2) * x.scale exponent : Nat) : ℚ) =
      (x.value + 2 ^ x.exponent / 2) * x.perOne exponent := by
    rw [Nat.cast_mul, scale_eq, quarter_eq, value]
    push_cast
    ring
  have hrounds : x.roundsOn exponent n = (0 < n &&
      if x.mantissa % 2 = 0 then
        (4 * x.mantissa - quarters) * x.scale exponent ≤ n * x.width exponent &&
          n * x.width exponent ≤ (4 * x.mantissa + 2) * x.scale exponent
      else (4 * x.mantissa - quarters) * x.scale exponent < n * x.width exponent &&
        n * x.width exponent < (4 * x.mantissa + 2) * x.scale exponent) := by
    simp [roundsOn, hquarters]
  rw [hrounds, Bool.and_eq_true, decide_eq_true_eq]
  apply and_congr_right
  intro _
  unfold Rounds
  split
  · rw [Bool.and_eq_true, decide_eq_true_eq, decide_eq_true_eq, ← Nat.cast_le (α := ℚ),
      ← Nat.cast_le (α := ℚ), hlow, hhigh, hpoint, mul_le_mul_iff_left₀ hone,
      mul_le_mul_iff_left₀ hone]
  · rw [Bool.and_eq_true, decide_eq_true_eq, decide_eq_true_eq, ← Nat.cast_lt (α := ℚ),
      ← Nat.cast_lt (α := ℚ), hlow, hhigh, hpoint, mul_lt_mul_iff_left₀ hone,
      mul_lt_mul_iff_left₀ hone]

theorem below_le : x.below exponent * 10 ^ exponent ≤ x.value := by
  have hone := x.perOne_pos exponent
  have hle := x.below_mul_width_le exponent
  rw [← Nat.cast_le (α := ℚ), point_eq, center_eq] at hle
  exact le_of_mul_le_mul_right hle hone

theorem lt_above : x.value < (x.below exponent + 1) * 10 ^ exponent := by
  have hone := x.perOne_pos exponent
  have hlt := x.center_lt exponent
  rw [← Nat.cast_lt (α := ℚ), point_eq, center_eq] at hlt
  push_cast at hlt
  exact lt_of_mul_lt_mul_right hlt hone.le

/-- A point of the grid is on one side of the number, with the point next to the number between
them or the same. -/
theorem point_le_or_le (x : Binary) (exponent : Int) (n : Nat) :
    (n ≤ x.below exponent ∧ (n : ℚ) * 10 ^ exponent ≤ x.below exponent * 10 ^ exponent) ∨
      (x.below exponent + 1 ≤ n ∧
        (x.below exponent + 1) * 10 ^ exponent ≤ (n : ℚ) * 10 ^ exponent) := by
  have hgrid : (0 : ℚ) ≤ 10 ^ exponent := by positivity
  rcases Nat.lt_or_ge (x.below exponent) n with hlt | hle
  · refine .inr ⟨hlt, mul_le_mul_of_nonneg_right ?_ hgrid⟩
    exact_mod_cast hlt
  · refine .inl ⟨hle, mul_le_mul_of_nonneg_right ?_ hgrid⟩
    exact_mod_cast hle

/-- On a grid that is fine enough, the point behind the number rounds to it. -/
theorem rounds_above (h : 10 ^ exponent < (2 : ℚ) ^ x.exponent / 2) :
    x.Rounds ((x.below exponent + 1 : Nat) * 10 ^ exponent) := by
  have hgap := x.gapBelow_pos
  have habove : x.value < (x.below exponent + 1) * 10 ^ exponent := lt_above
  have hbelow : x.below exponent * 10 ^ exponent ≤ x.value := below_le
  refine rounds_of_lt ?_ ?_
  · push_cast
    linarith
  · push_cast
    linarith

/-- If any point of the grid rounds to the number, one next to the number does. -/
theorem roundsOn_below_or_above (hmantissa : 0 < x.mantissa) {n : Nat} (hn : 0 < n)
    (hrounds : x.Rounds (n * 10 ^ exponent)) :
    (n ≤ x.below exponent ∧ x.roundsOn exponent (x.below exponent) = true) ∨
      (x.below exponent + 1 ≤ n ∧ x.roundsOn exponent (x.below exponent + 1) = true) := by
  simp only [roundsOn_iff hmantissa]
  push_cast
  rcases point_le_or_le x exponent n with ⟨hle, hpoint⟩ | ⟨hle, hpoint⟩
  · exact .inl ⟨hle, by omega, hrounds.of_between x.rounds_value hpoint below_le⟩
  · exact .inr ⟨hle, by omega, x.rounds_value.of_between hrounds lt_above.le hpoint⟩

theorem onGrid?_eq_none_iff (hmantissa : 0 < x.mantissa) :
    x.onGrid? exponent = none ↔ ∀ n : Nat, 0 < n → ¬x.Rounds (n * 10 ^ exponent) := by
  have hnone : x.onGrid? exponent = none ↔
      x.roundsOn exponent (x.below exponent) = false ∧
        x.roundsOn exponent (x.below exponent + 1) = false := by
    rw [onGrid?_eq]
    split <;> simp_all
  rw [hnone]
  constructor
  · rintro ⟨hbelow, habove⟩ n hn hrounds
    rcases roundsOn_below_or_above hmantissa hn hrounds with ⟨-, h⟩ | ⟨-, h⟩
    · rw [hbelow] at h
      cases h
    · rw [habove] at h
      cases h
  · intro hnot
    constructor
    · by_contra h
      have hbelow := (roundsOn_iff hmantissa).1 (eq_true_of_ne_false h)
      exact hnot _ hbelow.1 hbelow.2
    · by_contra h
      have habove := (roundsOn_iff hmantissa).1 (eq_true_of_ne_false h)
      exact hnot _ habove.1 habove.2

theorem abs_sub_of_le_below {n : Nat} (h : n ≤ x.below exponent) :
    |x.value - n * 10 ^ exponent| = x.value - n * 10 ^ exponent := by
  have hgrid : (0 : ℚ) ≤ 10 ^ exponent := by positivity
  have hn : (n : ℚ) ≤ x.below exponent := by exact_mod_cast h
  have hpoint := mul_le_mul_of_nonneg_right hn hgrid
  exact abs_of_nonneg (sub_nonneg.2 (hpoint.trans below_le))

theorem abs_sub_of_above_le {n : Nat} (h : x.below exponent + 1 ≤ n) :
    |x.value - n * 10 ^ exponent| = n * 10 ^ exponent - x.value := by
  have hgrid : (0 : ℚ) ≤ 10 ^ exponent := by positivity
  have hn : (x.below exponent + 1 : ℚ) ≤ n := by exact_mod_cast h
  have hpoint := mul_le_mul_of_nonneg_right hn hgrid
  rw [abs_sub_comm]
  exact abs_of_nonneg (sub_nonneg.2 (lt_above.le.trans hpoint))

theorem grid_lt {m n : Nat} (h : m < n) : (m : ℚ) * 10 ^ exponent < n * 10 ^ exponent := by
  have hgrid : (0 : ℚ) < 10 ^ exponent := by positivity
  exact mul_lt_mul_of_pos_right (by exact_mod_cast h) hgrid

/-- The distances to the points next to the number, in units of measure. -/
theorem nearer_eq (x : Binary) (exponent : Int) :
    let toBelow := x.value - x.below exponent * 10 ^ exponent
    let toAbove := ((x.below exponent + 1 : Nat) : ℚ) * 10 ^ exponent - x.value
    (x.nearer exponent = x.below exponent ∧
      (toBelow < toAbove ∨ (toBelow = toAbove ∧ x.below exponent % 2 = 0))) ∨
    (x.nearer exponent = x.below exponent + 1 ∧
      (toAbove < toBelow ∨ (toBelow = toAbove ∧ x.below exponent % 2 = 1))) := by
  intro toBelow toAbove
  have hone := x.perOne_pos exponent
  have hbelow : ((x.center exponent - x.below exponent * x.width exponent : Nat) : ℚ) =
      toBelow * x.perOne exponent := by
    rw [Nat.cast_sub (x.below_mul_width_le exponent), point_eq, center_eq]
    ring
  have habove : (((x.below exponent + 1) * x.width exponent - x.center exponent : Nat) : ℚ) =
      toAbove * x.perOne exponent := by
    rw [Nat.cast_sub (x.center_lt exponent).le, point_eq, center_eq]
    ring
  simp only [nearer, ← Nat.cast_lt (α := ℚ), hbelow, habove, mul_lt_mul_iff_left₀ hone]
  rcases lt_trichotomy toBelow toAbove with hlt | heq | hgt
  · simp [hlt]
  · rcases Nat.mod_two_eq_zero_or_one (x.below exponent) with heven | hodd
    · simp [heq, heven]
    · simp [heq, hodd]
  · simp [hgt, hgt.not_gt]

theorem isNearer_below {n : Nat} (hne : n ≠ x.below exponent)
    (hdistance : x.below exponent + 1 ≤ n →
      let toBelow := x.value - x.below exponent * 10 ^ exponent
      let toAbove := ((x.below exponent + 1 : Nat) : ℚ) * 10 ^ exponent - x.value
      toBelow < toAbove ∨ (toBelow = toAbove ∧ x.below exponent % 2 = 0)) :
    x.IsNearer ⟨x.below exponent, exponent⟩ ⟨n, exponent⟩ := by
  unfold IsNearer Shortest.value
  rw [abs_sub_of_le_below (le_refl _)]
  rcases Nat.lt_or_ge (x.below exponent) n with habove | hbelow
  · rw [abs_sub_of_above_le habove]
    rcases Nat.eq_or_lt_of_le habove with rfl | hfar
    · rcases hdistance habove with hlt | ⟨heq, heven⟩
      · exact .inl hlt
      · exact .inr ⟨heq, heven, by simp only; omega⟩
    · have hpoint : ((x.below exponent + 1 : Nat) : ℚ) * 10 ^ exponent < n * 10 ^ exponent :=
        grid_lt hfar
      rcases hdistance habove with hlt | ⟨heq, -⟩
      · exact .inl (by linarith)
      · exact .inl (by linarith)
  · rw [abs_sub_of_le_below hbelow]
    have hpoint : (n : ℚ) * 10 ^ exponent < x.below exponent * 10 ^ exponent := grid_lt (by omega)
    exact .inl (by linarith)

theorem isNearer_above {n : Nat} (hne : n ≠ x.below exponent + 1)
    (hdistance : n ≤ x.below exponent →
      let toBelow := x.value - x.below exponent * 10 ^ exponent
      let toAbove := ((x.below exponent + 1 : Nat) : ℚ) * 10 ^ exponent - x.value
      toAbove < toBelow ∨ (toBelow = toAbove ∧ x.below exponent % 2 = 1)) :
    x.IsNearer ⟨x.below exponent + 1, exponent⟩ ⟨n, exponent⟩ := by
  unfold IsNearer Shortest.value
  rw [abs_sub_of_above_le (le_refl _)]
  rcases Nat.lt_or_ge (x.below exponent) n with habove | hbelow
  · rw [abs_sub_of_above_le habove]
    have hpoint : ((x.below exponent + 1 : Nat) : ℚ) * 10 ^ exponent < n * 10 ^ exponent :=
      grid_lt (by omega)
    exact .inl (by linarith)
  · rw [abs_sub_of_le_below hbelow]
    rcases Nat.eq_or_lt_of_le hbelow with rfl | hfar
    · rcases hdistance le_rfl with hlt | ⟨heq, hodd⟩
      · exact .inl hlt
      · exact .inr ⟨heq.symm, by simp only; omega, hodd⟩
    · have hpoint : (n : ℚ) * 10 ^ exponent < x.below exponent * 10 ^ exponent := grid_lt hfar
      rcases hdistance hbelow with hlt | ⟨heq, -⟩
      · exact .inl (by linarith)
      · exact .inl (by linarith)

/-- The point that is taken is on the grid, rounds to the number and is the nearest such point. -/
theorem onGrid?_eq_some (hmantissa : 0 < x.mantissa) {d : Shortest}
    (h : x.onGrid? exponent = some d) :
    d.exponent = exponent ∧ 0 < d.digits ∧ x.Rounds d.value ∧
      ∀ n : Nat, 0 < n → x.Rounds (n * 10 ^ exponent) → n ≠ d.digits →
        x.IsNearer d ⟨n, exponent⟩ := by
  have hside {n : Nat} (hn : 0 < n) (hrounds : x.Rounds (n * 10 ^ exponent)) :=
    roundsOn_below_or_above hmantissa hn hrounds
  rw [onGrid?_eq] at h
  cases hbelow : x.roundsOn exponent (x.below exponent) with
  | false =>
    cases habove : x.roundsOn exponent (x.below exponent + 1) with
    | false =>
      rw [hbelow, habove] at h
      cases h
    | true =>
      rw [hbelow, habove] at h
      cases h
      obtain ⟨hpos, hrounds⟩ := (roundsOn_iff hmantissa).1 habove
      refine ⟨rfl, hpos, hrounds, fun n hn hn' hne => isNearer_above hne fun hle => ?_⟩
      rcases hside hn hn' with ⟨-, h⟩ | ⟨h, -⟩
      · rw [hbelow] at h
        cases h
      · omega
  | true =>
    obtain ⟨hpos, hrounds⟩ := (roundsOn_iff hmantissa).1 hbelow
    cases habove : x.roundsOn exponent (x.below exponent + 1) with
    | false =>
      rw [hbelow, habove] at h
      cases h
      refine ⟨rfl, hpos, hrounds, fun n hn hn' hne => isNearer_below hne fun hle => ?_⟩
      rcases hside hn hn' with ⟨h, -⟩ | ⟨-, h⟩
      · omega
      · rw [habove] at h
        cases h
    | true =>
      rw [hbelow, habove] at h
      cases h
      rcases nearer_eq x exponent with ⟨heq, hdistance⟩ | ⟨heq, hdistance⟩
      · rw [heq]
        exact ⟨rfl, hpos, hrounds, fun n _ _ hne => isNearer_below hne fun _ => hdistance⟩
      · obtain ⟨hpos, hrounds⟩ := (roundsOn_iff hmantissa).1 habove
        rw [heq]
        exact ⟨rfl, hpos, hrounds, fun n _ _ hne => isNearer_above hne fun _ => hdistance⟩

end Grid

/-! ## All grids -/

/-- The range of the floating-point numbers with 64 bits. -/
structure IsDouble (x : Binary) : Prop where
  mantissa_pos : 0 < x.mantissa
  mantissa_lt : x.mantissa < 2 ^ 53
  exponent_ge : -1074 ≤ x.exponent
  exponent_le : x.exponent ≤ 972

theorem isDouble_ofBits {bits : UInt64} (h : bits.toNat % 0x8000000000000000 ≠ 0) :
    (ofBits bits).IsDouble := by
  unfold ofBits unit
  extract_lets fraction biased
  split
  · constructor <;> simp only <;> omega
  · constructor <;> simp only <;> omega

variable {x : Binary}

theorem two_pow_lt_ten_pow {m n : Nat} (h : (2 : ℚ) ^ m < 10 ^ n) (k : Nat) (hk : k ≠ 0) :
    (2 : ℚ) ^ (m * k) < 10 ^ (n * k) := by
  rw [pow_mul, pow_mul]
  exact pow_lt_pow_left₀ h (by positivity) hk

/-- No point of a grid with a greater exponent than the search begins with is small enough. -/
theorem IsDouble.exponent_le_of_rounds (hx : x.IsDouble) {d : Shortest} (hpos : 0 < d.digits)
    (hrounds : x.Rounds d.value) : d.exponent ≤ 309 := by
  by_contra hlarge
  have hvalue : (10 : ℚ) ^ (310 : ℤ) ≤ d.value := by
    have hdigits : (1 : ℚ) ≤ d.digits := by exact_mod_cast hpos
    have hexponent : (10 : ℚ) ^ (310 : ℤ) ≤ 10 ^ d.exponent :=
      zpow_le_zpow_right₀ (by norm_num) (by omega)
    have hgrid : (0 : ℚ) ≤ 10 ^ d.exponent := by positivity
    calc (10 : ℚ) ^ (310 : ℤ) ≤ 1 * 10 ^ d.exponent := by rwa [one_mul]
      _ ≤ d.value := mul_le_mul_of_nonneg_right hdigits hgrid
  have hmost : x.value + 2 ^ x.exponent / 2 ≤ 2 ^ 53 * 2 ^ (972 : ℤ) := by
    have hexponent : (2 : ℚ) ^ x.exponent ≤ 2 ^ (972 : ℤ) :=
      zpow_le_zpow_right₀ (by norm_num) hx.exponent_le
    have hplace : (0 : ℚ) ≤ 2 ^ x.exponent := by positivity
    have hmantissa : (x.mantissa : ℚ) + 1 ≤ 2 ^ 53 := by exact_mod_cast hx.mantissa_lt
    calc x.value + 2 ^ x.exponent / 2 ≤ (x.mantissa + 1) * 2 ^ x.exponent := by
          rw [value]
          linarith
      _ ≤ 2 ^ 53 * 2 ^ (972 : ℤ) := by gcongr
  have hfar : (2 : ℚ) ^ 53 * 2 ^ (972 : ℤ) < 10 ^ (310 : ℤ) := by
    rw [zpow_ofNat, zpow_ofNat, ← pow_add]
    exact two_pow_lt_ten_pow (m := 205) (n := 62) (by norm_num) 5 (by decide)
  exact absurd (hvalue.trans (hrounds.le.trans hmost)) (not_le.2 hfar)

/-- The grids get fine enough for every number. -/
theorem IsDouble.onGrid?_ne_none (hx : x.IsDouble) : x.onGrid? (-345) ≠ none := by
  rw [Ne, onGrid?_eq_none_iff hx.mantissa_pos]
  intro hnot
  have hexponent : (2 : ℚ) ^ (-1074 : ℤ) ≤ 2 ^ x.exponent :=
    zpow_le_zpow_right₀ (by norm_num) hx.exponent_ge
  have hfine : (10 : ℚ) ^ (-345 : ℤ) < 2 ^ (-1074 : ℤ) / 2 := by
    have hpow : (2 : ℚ) ^ 1075 < 10 ^ 345 :=
      two_pow_lt_ten_pow (m := 215) (n := 69) (by norm_num) 5 (by decide)
    have hhalf : (2 : ℚ) ^ (-1074 : ℤ) / 2 = (2 ^ 1075)⁻¹ := by
      rw [pow_succ, mul_inv, zpow_neg, zpow_ofNat, div_eq_mul_inv]
    rw [hhalf, zpow_neg, zpow_ofNat]
    exact inv_strictAnti₀ (by positivity) hpow
  have habove : (10 : ℚ) ^ (-345 : ℤ) < 2 ^ x.exponent / 2 :=
    hfine.trans_le (div_le_div_of_nonneg_right hexponent (by norm_num))
  exact hnot _ (Nat.succ_pos _) (rounds_above habove)

/-- The grids are tried in order, so the first one with a point is the coarsest. -/
theorem shortest_eq_some (hx : x.IsDouble) :
    x.onGrid? x.shortest.exponent = some x.shortest ∧
      ∀ exponent : Int, x.shortest.exponent < exponent → exponent ≤ 309 →
        x.onGrid? exponent = none := by
  have hfound : ∃ d, (List.range 655).findSome? (fun (step : Nat) => x.onGrid? (309 - (step : Int))) =
      some d := by
    rw [← Option.isSome_iff_exists, List.findSome?_isSome_iff]
    exact ⟨654, by simp, Option.isSome_iff_ne_none.2 hx.onGrid?_ne_none⟩
  obtain ⟨d, hd⟩ := hfound
  have hshortest : x.shortest = d := by rw [shortest, hd, Option.getD_some]
  obtain ⟨before, step, after, hrange, hgrid, hbefore⟩ := List.findSome?_eq_some_iff.1 hd
  have hexponent : d.exponent = 309 - (step : Int) := (onGrid?_eq_some hx.mantissa_pos hgrid).1
  have hafter : ∀ later ∈ after, step < later := by
    have hsorted := List.pairwise_lt_range (n := 655)
    rw [hrange, List.pairwise_append, List.pairwise_cons] at hsorted
    exact hsorted.2.1.1
  rw [hshortest, hexponent]
  refine ⟨hgrid, fun exponent hlt hle => ?_⟩
  obtain ⟨earlier, rfl⟩ : ∃ earlier : Nat, exponent = 309 - (earlier : Int) :=
    ⟨(309 - exponent).toNat, by omega⟩
  have hstep : step ∈ List.range 655 := by simp [hrange]
  have hmem : earlier ∈ before ++ step :: after := by
    rw [← hrange, List.mem_range]
    have := List.mem_range.1 hstep
    omega
  rcases List.mem_append.1 hmem with h | h
  · exact hbefore earlier h
  rcases List.mem_cons.1 h with rfl | h
  · omega
  · have := hafter earlier h
    omega

theorem isShortest_of_onGrid? (hx : x.IsDouble) {d : Shortest}
    (hgrid : x.onGrid? d.exponent = some d)
    (hcoarser : ∀ exponent : Int, d.exponent < exponent → exponent ≤ 309 →
      x.onGrid? exponent = none) : x.IsShortest d := by
  obtain ⟨-, hpos, hrounds, hnearest⟩ := onGrid?_eq_some hx.mantissa_pos hgrid
  refine ⟨hpos, hrounds, fun d' hpos' hrounds' => ?_, fun d' hpos' hrounds' hsame hne => ?_⟩
  · by_contra hlt
    have hnone := hcoarser d'.exponent (by omega) (hx.exponent_le_of_rounds hpos' hrounds')
    exact (onGrid?_eq_none_iff hx.mantissa_pos).1 hnone d'.digits hpos' hrounds'
  · obtain ⟨digits, exponent⟩ := d'
    obtain rfl : exponent = d.exponent := hsame
    exact hnearest digits hpos' hrounds' fun hdigits => hne (by rw [hdigits])

/-- The search over the grids finds the shortest decimal. -/
theorem isShortest_shortest (hx : x.IsDouble) : x.IsShortest x.shortest := by
  obtain ⟨hgrid, hcoarser⟩ := shortest_eq_some hx
  exact isShortest_of_onGrid? hx hgrid hcoarser

end Binary

end CrontabRenderer.Decimal
