import TickWalk.Decimal.Reading
import TickWalk.Decimal.Scaled
import TickWalk.Proofs.Decimal.Rounding
import Mathlib.Algebra.Order.Field.Power
import Mathlib.Algebra.Order.Ring.Pow
import Mathlib.Data.Rat.Cast.Order
import Mathlib.Tactic.FieldSimp
import Mathlib.Tactic.GCongr
import Mathlib.Tactic.Linarith
import Mathlib.Tactic.NormNum
import Mathlib.Tactic.Positivity
import Mathlib.Tactic.Ring

/-!
# How far decimal arithmetic is off

What is rounded to a number of significant digits is off by half a unit of the last of them at most, and
so is at least a certain part of what it stands for, and the other way round. Such parts multiply: a power
that is worked out with rounded products is off by one part for each of them.
-/

namespace TickWalk.Decimal

variable {n k p : Nat} {x y : Scaled}

/-! ### Digits -/

lemma digitCount_pos (n : Nat) : 0 < digitCount n := List.length_pos_iff.mpr Nat.toDigits_ne_nil

lemma digitCount_le_iff (hk : 0 < k) : digitCount n ≤ k ↔ n < 10 ^ k :=
  Nat.length_toDigits_le_iff (by decide) hk

lemma lt_pow_digitCount (n : Nat) : n < 10 ^ digitCount n :=
  (digitCount_le_iff (digitCount_pos n)).mp (Nat.le_refl _)

lemma pow_le_of_lt_digitCount (hk : 0 < k) (h : k < digitCount n) : 10 ^ k ≤ n :=
  Nat.not_lt.mp fun hlt => Nat.not_lt.mpr ((digitCount_le_iff hk).mpr hlt) h

lemma pow_digitCount_le (h : 0 < n) : 10 ^ (digitCount n - 1) ≤ n := by
  rcases Nat.eq_zero_or_pos (digitCount n - 1) with hone | hmore
  · rw [hone, Nat.pow_zero]
    exact h
  · exact pow_le_of_lt_digitCount hmore (Nat.sub_lt (digitCount_pos n) Nat.one_pos)

lemma digitCount_eq_of_mem (hk : 0 < k) (hlow : 10 ^ (k - 1) ≤ n) (hhigh : n < 10 ^ k) :
    digitCount n = k := by
  refine Nat.le_antisymm ((digitCount_le_iff hk).mpr hhigh) ?_
  rcases Nat.lt_or_ge 1 k with h | h
  · have hlt : ¬ digitCount n ≤ k - 1 := by
      rw [digitCount_le_iff (Nat.sub_pos_of_lt h)]
      exact Nat.not_lt.mpr hlow
    omega
  · exact Nat.le_trans h (digitCount_pos n)

lemma zpow_eq_mul_pow {a : ℚ} (ha : a ≠ 0) {i j : Int} (h : i = j + n) : a ^ i = a ^ j * a ^ n := by
  rw [h, zpow_add₀ ha, zpow_natCast]

/-! ### Numbers that are near each other -/

/-- Each of two numbers is at least the other, made smaller `k` times in a ratio. -/
def Within (s : ℚ) (k : Nat) (a b : ℚ) : Prop := a * s ^ k ≤ b ∧ b * s ^ k ≤ a

namespace Within

variable {s a b c d : ℚ} {l : Nat}

lemma refl (s : ℚ) (a : ℚ) : Within s 0 a a := by
  unfold Within
  rw [pow_zero, mul_one, and_self]

lemma trans (hs : 0 ≤ s) (h : Within s k a b) (h' : Within s l b c) : Within s (k + l) a c := by
  constructor
  · calc a * s ^ (k + l) = a * s ^ k * s ^ l := by rw [pow_add, mul_assoc]
      _ ≤ b * s ^ l := mul_le_mul_of_nonneg_right h.1 (pow_nonneg hs l)
      _ ≤ c := h'.1
  · calc c * s ^ (k + l) = c * s ^ l * s ^ k := by rw [pow_add, mul_comm (s ^ k), mul_assoc]
      _ ≤ b * s ^ k := mul_le_mul_of_nonneg_right h'.2 (pow_nonneg hs k)
      _ ≤ a := h.2

lemma mul (hs : 0 ≤ s) (ha : 0 ≤ a) (hb : 0 ≤ b) (hc : 0 ≤ c) (hd : 0 ≤ d) (h : Within s k a b)
    (h' : Within s l c d) : Within s (k + l) (a * c) (b * d) := by
  constructor
  · calc a * c * s ^ (k + l) = a * s ^ k * (c * s ^ l) := by rw [pow_add, mul_mul_mul_comm]
      _ ≤ b * d := mul_le_mul h.1 h'.1 (mul_nonneg hc (pow_nonneg hs l)) hb
  · calc b * d * s ^ (k + l) = b * s ^ k * (d * s ^ l) := by rw [pow_add, mul_mul_mul_comm]
      _ ≤ a * c := mul_le_mul h.2 h'.2 (mul_nonneg hd (pow_nonneg hs l)) ha

lemma pow (hs : 0 ≤ s) (ha : 0 ≤ a) (hb : 0 ≤ b) (h : Within s k a b) (n : Nat) :
    Within s (k * n) (a ^ n) (b ^ n) := by
  induction n with
  | zero =>
    rw [pow_zero, pow_zero]
    exact refl s 1
  | succ n ih =>
    rw [pow_succ, pow_succ, Nat.mul_succ]
    exact ih.mul hs (pow_nonneg ha n) (pow_nonneg hb n) ha hb h

lemma mono (hs : 0 ≤ s) (hs' : s ≤ 1) (ha : 0 ≤ a) (hb : 0 ≤ b) (hkl : k ≤ l) (h : Within s k a b) :
    Within s l a b := by
  have hpow : s ^ l ≤ s ^ k := pow_le_pow_of_le_one hs hs' hkl
  exact ⟨le_trans (mul_le_mul_of_nonneg_left hpow ha) h.1,
    le_trans (mul_le_mul_of_nonneg_left hpow hb) h.2⟩

lemma of_le {t : ℚ} (ht : t ≤ s ^ k) (ha : 0 ≤ a) (hb : 0 ≤ b) (h : Within s k a b) :
    Within t 1 a b := by
  unfold Within
  rw [pow_one]
  exact ⟨le_trans (mul_le_mul_of_nonneg_left ht ha) h.1,
    le_trans (mul_le_mul_of_nonneg_left ht hb) h.2⟩

lemma of_abs_sub_le {u : ℚ} (hu : 0 ≤ u) (hu' : u ≤ 1) (ha : 0 ≤ a) (h : |b - a| ≤ u * a) :
    Within (1 - u) 1 a b := by
  obtain ⟨hlow, hhigh⟩ := abs_le.mp h
  unfold Within
  rw [pow_one]
  constructor
  · linarith
  · calc b * (1 - u) ≤ (a + u * a) * (1 - u) := by
          apply mul_le_mul_of_nonneg_right _ (by linarith)
          linarith
      _ = a - u * u * a := by ring
      _ ≤ a := by
          have hnonneg : 0 ≤ u * u * a := by positivity
          linarith

lemma lt_of_mul_le {x y ratio : ℚ} (hs : 0 < s) (ha : 0 < a) (hx : Within s k a x) (hy : Within s k b y)
    (hgap : a * ratio ≤ b) (hratio : 1 < ratio * s ^ (k + k)) : x < y := by
  have hpow : 0 < s ^ k := pow_pos hs k
  have hxpos : 0 < x := lt_of_lt_of_le (mul_pos ha hpow) hx.1
  have hratiopos : 0 ≤ ratio := by
    by_contra hneg
    have hproduct : ratio * s ^ (k + k) ≤ 0 :=
      mul_nonpos_of_nonpos_of_nonneg (not_le.mp hneg).le (pow_nonneg hs.le _)
    linarith
  calc x < x * (ratio * s ^ (k + k)) := lt_mul_of_one_lt_right hxpos hratio
    _ = x * s ^ k * ratio * s ^ k := by
      rw [pow_add]
      ring
    _ ≤ a * ratio * s ^ k := by gcongr; exact hx.2
    _ ≤ b * s ^ k := by gcongr
    _ ≤ y := hy.1

end Within

/-- The part that a number of so many significant digits may be off. -/
def looseness (p : Nat) : ℚ := 1 / (2 * 10 ^ (p - 1))

lemma looseness_nonneg (p : Nat) : 0 ≤ looseness p := by
  unfold looseness
  positivity

lemma looseness_le_one (p : Nat) : looseness p ≤ 1 := by
  unfold looseness
  rw [div_le_one (by positivity)]
  have hpow : (1 : ℚ) ≤ 10 ^ (p - 1) := one_le_pow₀ (by norm_num)
  linarith

/-- So many parts that a number with `p + d` digits may be off are less than one of a number with `p`. -/
lemma le_one_sub_looseness_pow {d : Nat} (hp : 0 < p) (hk : k ≤ 2 * 10 ^ d) :
    1 - 1 / 10 ^ (p - 1) ≤ (1 - looseness (p + d)) ^ k := by
  have hbernoulli := one_add_mul_le_pow (a := -looseness (p + d)) (by
    have hone := looseness_le_one (p + d)
    linarith) k
  have hk : (k : ℚ) ≤ 2 * 10 ^ d := by exact_mod_cast hk
  have hparts : k * looseness (p + d) ≤ 1 / 10 ^ (p - 1) := by
    calc k * looseness (p + d) ≤ 2 * 10 ^ d * looseness (p + d) :=
          mul_le_mul_of_nonneg_right hk (looseness_nonneg _)
      _ = 1 / 10 ^ (p - 1) := by
          rw [looseness, show p + d - 1 = p - 1 + d by omega, pow_add]
          field_simp
  calc 1 - 1 / 10 ^ (p - 1) ≤ 1 + k * -looseness (p + d) := by linarith
    _ ≤ (1 + -looseness (p + d)) ^ k := hbernoulli
    _ = (1 - looseness (p + d)) ^ k := by rw [← sub_eq_add_neg]

/-- Numbers that so many parts lie between are no further from each other than one larger part. -/
lemma Within.of_parts {a b : ℚ} {d : Nat} (hp : 0 < p) (hk : k ≤ 2 * 10 ^ d) (ha : 0 ≤ a) (hb : 0 ≤ b)
    (h : Within (1 - looseness (p + d)) k a b) : Within (1 - 1 / 10 ^ (p - 1)) 1 a b :=
  h.of_le (le_one_sub_looseness_pow hp hk) ha hb

lemma abs_roundQuotient_sub_le (num : Nat) {den : Nat} (hden : 0 < den) :
    |(roundQuotient num den * den : ℚ) - num| ≤ den / 2 := by
  obtain ⟨hhigh, hlow, -⟩ := roundQuotient_spec num hden
  have hhigh : (2 * (roundQuotient num den * den) : ℚ) ≤ 2 * num + den := by exact_mod_cast hhigh
  have hlow : (2 * num : ℚ) ≤ 2 * (roundQuotient num den * den) + den := by exact_mod_cast hlow
  rw [abs_le]
  constructor
  · linarith
  · linarith

lemma le_roundQuotient {num den : Nat} (hden : 0 < den) (h : k * den ≤ num) :
    k ≤ roundQuotient num den := by
  obtain ⟨-, hlow, -⟩ := roundQuotient_spec num hden
  by_contra hless
  have hstep : (roundQuotient num den + 1) * den ≤ k * den := Nat.mul_le_mul_right den (by omega)
  rw [Nat.succ_mul] at hstep
  omega

/-- The number that is written. -/
def Scientific.value (x : Scientific) : ℚ := (if x.negative then -1 else 1) * (x.digits * 10 ^ x.exponent)

namespace Scaled

/-- The number that is meant. -/
def value (x : Scaled) : ℚ := x.coefficient * 10 ^ x.exponent

lemma value_written (x : Scaled) : Scientific.value ⟨false, x.coefficient, x.exponent⟩ = x.value := by
  rw [Scientific.value, if_neg Bool.false_ne_true, one_mul]
  rfl

lemma value_nonneg (x : Scaled) : 0 ≤ x.value := by
  unfold value
  positivity

lemma value_lt (x : Scaled) : x.value < 10 ^ (x.adjusted + 1) := by
  have hdigits : (x.coefficient : ℚ) < 10 ^ digitCount x.coefficient := by
    exact_mod_cast lt_pow_digitCount x.coefficient
  have hsum : x.adjusted + 1 = digitCount x.coefficient + x.exponent := by
    unfold adjusted
    omega
  rw [hsum, zpow_add₀ (by norm_num), zpow_natCast, value]
  gcongr

lemma le_value {x : Scaled} (h : 0 < x.coefficient) : 10 ^ x.adjusted ≤ x.value := by
  have hdigits : (10 : ℚ) ^ (digitCount x.coefficient - 1) ≤ x.coefficient := by
    exact_mod_cast pow_digitCount_le h
  have hpos := digitCount_pos x.coefficient
  have hsum : x.adjusted = (digitCount x.coefficient - 1 : Nat) + x.exponent := by
    unfold adjusted
    omega
  rw [hsum, zpow_add₀ (by norm_num), zpow_natCast, value]
  gcongr

/-! ### Rounding -/

lemma roundTo_of_digitCount_le (h : digitCount x.coefficient ≤ p) : roundTo p x = x := by
  unfold roundTo
  dsimp only
  rw [if_pos (Nat.sub_eq_zero_of_le h)]

lemma roundQuotient_mem (hp : 0 < p) (h : p < digitCount n) :
    10 ^ (p - 1) ≤ roundQuotient n (10 ^ (digitCount n - p)) ∧
      roundQuotient n (10 ^ (digitCount n - p)) ≤ 10 ^ p := by
  have hunit : 0 < 10 ^ (digitCount n - p) := Nat.pow_pos (by decide)
  obtain ⟨hhigh, hlow, -⟩ := roundQuotient_spec n hunit
  have hleast : 10 ^ (p - 1) * 10 ^ (digitCount n - p) ≤ n := by
    rw [← Nat.pow_add]
    exact pow_le_of_lt_digitCount (by omega) (by omega)
  have hmost : n < 10 ^ p * 10 ^ (digitCount n - p) := by
    rw [← Nat.pow_add, Nat.add_sub_cancel' h.le]
    exact lt_pow_digitCount n
  generalize 10 ^ (digitCount n - p) = unit at *
  generalize roundQuotient n unit = q at *
  constructor
  · by_contra hsmall
    have hstep : (q + 1) * unit ≤ 10 ^ (p - 1) * unit := Nat.mul_le_mul_right unit (by omega)
    rw [Nat.succ_mul] at hstep
    omega
  · by_contra hlarge
    have hstep : (10 ^ p + 1) * unit ≤ q * unit := Nat.mul_le_mul_right unit (by omega)
    rw [Nat.succ_mul] at hstep
    omega

/-- What a number with too many digits is rounded to: all the digits that are left, or a power of ten,
of which a zero is dropped. -/
lemma roundTo_cases (hp : 0 < p) (h : p < digitCount x.coefficient) :
    let excess := digitCount x.coefficient - p
    let q := roundQuotient x.coefficient (10 ^ excess)
    (10 ^ (p - 1) ≤ q ∧ q < 10 ^ p ∧ roundTo p x = ⟨q, x.exponent + excess⟩) ∨
      (q = 10 ^ p ∧ roundTo p x = ⟨10 ^ (p - 1), x.exponent + excess + 1⟩) := by
  intro excess q
  have hexcess : ¬ digitCount x.coefficient - p = 0 := by omega
  obtain ⟨hlow, hhigh⟩ := roundQuotient_mem hp h
  have hround : roundTo p x = if digitCount q = p then ⟨q, x.exponent + excess⟩
      else ⟨q / 10, x.exponent + excess + 1⟩ := if_neg hexcess
  rcases Nat.lt_or_eq_of_le hhigh with hlt | heq
  · left
    rw [hround, if_pos (digitCount_eq_of_mem hp hlow hlt)]
    exact ⟨hlow, hlt, rfl⟩
  · right
    have hq : q = 10 ^ p := heq
    have hne : digitCount q ≠ p := by
      intro hcount
      have hlt := lt_pow_digitCount q
      rw [hcount, hq] at hlt
      exact Nat.lt_irrefl _ hlt
    have hten : 10 ^ p / 10 = 10 ^ (p - 1) := by
      rw [Nat.div_eq_of_eq_mul_left (by decide) (Nat.pow_pred_mul hp).symm]
    rw [hround, if_neg hne, hq, hten]
    exact ⟨rfl, rfl⟩

lemma coefficient_roundTo (hp : 0 < p) (h : p < digitCount x.coefficient) :
    10 ^ (p - 1) ≤ (roundTo p x).coefficient ∧ (roundTo p x).coefficient < 10 ^ p := by
  rcases roundTo_cases hp h with ⟨hlow, hhigh, heq⟩ | ⟨-, heq⟩
  · rw [heq]
    exact ⟨hlow, hhigh⟩
  · rw [heq]
    exact ⟨Nat.le_refl _, Nat.pow_lt_pow_right (by decide) (by omega)⟩

lemma coefficient_roundTo_lt (hp : 0 < p) (x : Scaled) : (roundTo p x).coefficient < 10 ^ p := by
  rcases Nat.lt_or_ge p (digitCount x.coefficient) with h | h
  · exact (coefficient_roundTo hp h).2
  · rw [roundTo_of_digitCount_le h]
    exact (digitCount_le_iff hp).mp h

lemma le_coefficient_roundTo {c : Nat} (hp : 0 < p) (hc : c ≤ 10 ^ (p - 1)) (h : c ≤ x.coefficient) :
    c ≤ (roundTo p x).coefficient := by
  rcases Nat.lt_or_ge p (digitCount x.coefficient) with hmany | hfew
  · exact Nat.le_trans hc (coefficient_roundTo hp hmany).1
  · rw [roundTo_of_digitCount_le hfew]
    exact h

lemma value_roundTo (hp : 0 < p) (h : p < digitCount x.coefficient) :
    (roundTo p x).value = roundQuotient x.coefficient (10 ^ (digitCount x.coefficient - p)) *
      10 ^ (x.exponent + (digitCount x.coefficient - p : Nat)) := by
  rcases roundTo_cases hp h with ⟨-, -, heq⟩ | ⟨hq, heq⟩
  · rw [heq]
    rfl
  · rw [heq, hq]
    unfold value
    have hpow : (10 : ℚ) ^ (p - 1) * 10 = 10 ^ p := by rw [← pow_succ, Nat.sub_add_cancel hp]
    push_cast
    rw [zpow_add_one₀ (by norm_num), ← hpow]
    ring

lemma abs_value_roundTo_sub_le_unit (hp : 0 < p) (h : p < digitCount x.coefficient) :
    |(roundTo p x).value - x.value| ≤ 10 ^ (x.exponent + (digitCount x.coefficient - p : Nat)) / 2 := by
  have hunit : 0 < 10 ^ (digitCount x.coefficient - p) := Nat.pow_pos (by decide)
  have hround := abs_roundQuotient_sub_le x.coefficient hunit
  have hten : (0 : ℚ) < 10 ^ x.exponent := by positivity
  rw [value_roundTo hp h, value, zpow_add₀ (by norm_num), zpow_natCast]
  rw [Nat.cast_pow, Nat.cast_ofNat] at hround
  generalize (roundQuotient x.coefficient (10 ^ (digitCount x.coefficient - p)) : ℚ) = q at *
  generalize (10 : ℚ) ^ (digitCount x.coefficient - p) = unit at *
  calc |q * (10 ^ x.exponent * unit) - x.coefficient * 10 ^ x.exponent|
      = |q * unit - x.coefficient| * 10 ^ x.exponent := by
        rw [← abs_of_pos hten, ← abs_mul, abs_of_pos hten]
        ring_nf
    _ ≤ unit / 2 * 10 ^ x.exponent := mul_le_mul_of_nonneg_right hround hten.le
    _ = 10 ^ x.exponent * unit / 2 := by ring

/-- Rounding is off by half a unit of the last digit at most. -/
theorem abs_value_roundTo_sub_le (hp : 0 < p) (x : Scaled) :
    |(roundTo p x).value - x.value| ≤ 10 ^ (roundTo p x).exponent / 2 := by
  rcases Nat.lt_or_ge p (digitCount x.coefficient) with h | h
  · have hexponent : x.exponent + (digitCount x.coefficient - p : Nat) ≤ (roundTo p x).exponent := by
      rcases roundTo_cases hp h with ⟨-, -, heq⟩ | ⟨-, heq⟩
      · rw [heq]
      · rw [heq]
        exact Int.le_add_one (Int.le_refl _)
    refine le_trans (abs_value_roundTo_sub_le_unit hp h) ?_
    gcongr
    norm_num
  · rw [roundTo_of_digitCount_le h, sub_self, abs_zero]
    positivity

lemma abs_value_roundTo_sub_le_adjusted (hp : 0 < p) (x : Scaled) :
    |(roundTo p x).value - x.value| ≤ 10 ^ ((roundTo p x).adjusted + 1 - p) / 2 := by
  rcases Nat.lt_or_ge p (digitCount x.coefficient) with h | h
  · obtain ⟨hlow, hhigh⟩ := coefficient_roundTo hp h
    have hexponent : (roundTo p x).adjusted + 1 - p = (roundTo p x).exponent := by
      rw [adjusted, digitCount_eq_of_mem hp hlow hhigh]
      omega
    rw [hexponent]
    exact abs_value_roundTo_sub_le hp x
  · rw [roundTo_of_digitCount_le h, sub_self, abs_zero]
    positivity

/-- Rounding is off by a part of the number, which depends on how many digits are kept. -/
theorem within_roundTo (hp : 0 < p) (x : Scaled) :
    Within (1 - looseness p) 1 x.value (roundTo p x).value := by
  refine Within.of_abs_sub_le (looseness_nonneg p) (looseness_le_one p) x.value_nonneg ?_
  rcases Nat.lt_or_ge p (digitCount x.coefficient) with h | h
  · refine le_trans (abs_value_roundTo_sub_le_unit hp h) ?_
    have hleast : 10 ^ (p - 1) * 10 ^ (digitCount x.coefficient - p) ≤ x.coefficient := by
      rw [← Nat.pow_add]
      rcases Nat.eq_zero_or_pos (p - 1 + (digitCount x.coefficient - p)) with hzero | hpos
      · omega
      · exact pow_le_of_lt_digitCount hpos (by omega)
    have hleast : (10 : ℚ) ^ (p - 1) * 10 ^ (digitCount x.coefficient - p) ≤ x.coefficient := by
      exact_mod_cast hleast
    rw [value, looseness, zpow_add₀ (by norm_num), zpow_natCast]
    rw [div_le_iff₀ (by norm_num)]
    calc (10 : ℚ) ^ x.exponent * 10 ^ (digitCount x.coefficient - p)
        = 1 / 10 ^ (p - 1) * (10 ^ (p - 1) * 10 ^ (digitCount x.coefficient - p)) *
            10 ^ x.exponent := by field_simp
      _ ≤ 1 / 10 ^ (p - 1) * x.coefficient * 10 ^ x.exponent := by gcongr
      _ = 1 / (2 * 10 ^ (p - 1)) * (x.coefficient * 10 ^ x.exponent) * 2 := by field_simp
  · rw [roundTo_of_digitCount_le h, sub_self, abs_zero]
    exact mul_nonneg (looseness_nonneg p) x.value_nonneg

/-! ### Products, quotients and powers -/

lemma within_mul (hp : 0 < p) (x y : Scaled) :
    Within (1 - looseness p) 1 (x.value * y.value) (mul p x y).value := by
  have hproduct : x.value * y.value = value ⟨x.coefficient * y.coefficient, x.exponent + y.exponent⟩ := by
    unfold value
    rw [zpow_add₀ (by norm_num), Nat.cast_mul]
    ring
  rw [hproduct]
  exact within_roundTo hp _

/-- The digits of one over a number are as many as are asked for. -/
lemma inverse_den_mul_le (hp : 0 < p) {c : Nat} (hc : 0 < c) :
    c * 10 ^ (digitCount (10 ^ (p + digitCount c) / c) - p) * 10 ^ (p - 1) ≤ 10 ^ (p + digitCount c) := by
  have hlarge : 10 ^ p ≤ 10 ^ (p + digitCount c) / c := by
    rw [Nat.le_div_iff_mul_le hc, Nat.pow_add]
    exact Nat.mul_le_mul_left _ (lt_pow_digitCount c).le
  have hdigits : p < digitCount (10 ^ (p + digitCount c) / c) := by
    by_contra hcount
    exact Nat.not_lt.mpr hlarge ((digitCount_le_iff hp).mp (Nat.not_lt.mp hcount))
  generalize 10 ^ (p + digitCount c) = power at *
  have hlow : 10 ^ (digitCount (power / c) - p + (p - 1)) ≤ power / c :=
    pow_le_of_lt_digitCount (by omega) (by omega)
  calc c * 10 ^ (digitCount (power / c) - p) * 10 ^ (p - 1)
      = c * 10 ^ (digitCount (power / c) - p + (p - 1)) := by rw [Nat.pow_add, Nat.mul_assoc]
    _ ≤ c * (power / c) := Nat.mul_le_mul_left _ hlow
    _ ≤ power := Nat.mul_div_le _ _

lemma le_coefficient_inverse (hp : 0 < p) (hx : 0 < x.coefficient) :
    10 ^ (p - 1) ≤ (inverse p x).coefficient := by
  have hfits := inverse_den_mul_le hp hx
  rw [Nat.mul_comm] at hfits
  exact le_roundQuotient (Nat.mul_pos hx (Nat.pow_pos (by decide))) hfits

lemma within_inverse (hp : 0 < p) (hx : 0 < x.coefficient) :
    Within (1 - looseness p) 1 x.value⁻¹ (inverse p x).value := by
  set shift := p + digitCount x.coefficient with hshift
  set wide := 10 ^ shift / x.coefficient with hwide
  set excess := digitCount wide - p with hexcess
  set den := x.coefficient * 10 ^ excess with hden
  have hvalue : (inverse p x).value =
      roundQuotient (10 ^ shift) den * 10 ^ (excess - shift - x.exponent : Int) := rfl
  have hfits : den * 10 ^ (p - 1) ≤ 10 ^ shift := inverse_den_mul_le hp hx
  have hround := abs_roundQuotient_sub_le (10 ^ shift)
    (Nat.mul_pos hx (Nat.pow_pos (by decide)) : 0 < den)
  have hc : (0 : ℚ) < x.coefficient := by exact_mod_cast hx
  have hfits : (den : ℚ) * 10 ^ (p - 1) ≤ 10 ^ shift := by exact_mod_cast hfits
  have hcast : (den : ℚ) = x.coefficient * 10 ^ excess := by
    rw [hden, Nat.cast_mul, Nat.cast_pow, Nat.cast_ofNat]
  rw [Nat.cast_pow, Nat.cast_ofNat] at hround
  have hinverse : 0 ≤ x.value⁻¹ := inv_nonneg.mpr x.value_nonneg
  refine Within.of_abs_sub_le (looseness_nonneg p) (looseness_le_one p) hinverse ?_
  have hten : (0 : ℚ) < 10 ^ x.exponent := by positivity
  have hscale : (0 : ℚ) < x.value⁻¹ / 10 ^ shift := by
    unfold value
    positivity
  have hsplit : (inverse p x).value - x.value⁻¹ =
      (roundQuotient (10 ^ shift) den * den - 10 ^ shift) * (x.value⁻¹ / 10 ^ shift) := by
    rw [hvalue, hcast, value, zpow_sub₀ (by norm_num), zpow_sub₀ (by norm_num), zpow_natCast, zpow_natCast]
    field_simp
  calc |(inverse p x).value - x.value⁻¹|
      = |(roundQuotient (10 ^ shift) den * den - 10 ^ shift : ℚ)| * (x.value⁻¹ / 10 ^ shift) := by
        rw [hsplit, abs_mul, abs_of_pos hscale]
    _ ≤ den / 2 * (x.value⁻¹ / 10 ^ shift) := mul_le_mul_of_nonneg_right hround hscale.le
    _ ≤ looseness p * x.value⁻¹ := by
        have hpart : (den : ℚ) / 2 / 10 ^ shift ≤ looseness p := by
          rw [looseness, div_div, div_le_div_iff₀ (by positivity) (by positivity)]
          linarith
        calc (den : ℚ) / 2 * (x.value⁻¹ / 10 ^ shift) = den / 2 / 10 ^ shift * x.value⁻¹ := by ring
          _ ≤ looseness p * x.value⁻¹ := mul_le_mul_of_nonneg_right hpart hinverse

lemma within_square {a : ℚ} (hp : 0 < p) (ha : 0 ≤ a) (h : Within (1 - looseness p) k a x.value) :
    Within (1 - looseness p) (k + k + 1) (a * a) (x.mul p x).value := by
  have hs : 0 ≤ 1 - looseness p := sub_nonneg.mpr (looseness_le_one p)
  exact (h.mul hs ha x.value_nonneg ha x.value_nonneg h).trans hs (within_mul hp x x)

/-- A power is off by one part for each of the products that it takes. -/
theorem within_pow (hp : 0 < p) (x : Scaled) (n : Nat) :
    Within (1 - looseness p) (2 * n - 2) (x.value ^ n) (pow p x n).value := by
  have hs : 0 ≤ 1 - looseness p := sub_nonneg.mpr (looseness_le_one p)
  have hs' : 1 - looseness p ≤ 1 := sub_le_self 1 (looseness_nonneg p)
  have hpow (n : Nat) : 0 ≤ x.value ^ n := pow_nonneg x.value_nonneg n
  fun_induction pow p x n with
  | case1 =>
    have hone : one.value = 1 := by norm_num [one, value]
    rw [pow_zero, hone]
    exact Within.refl _ 1
  | case2 n hle hzero =>
    obtain rfl : n = 1 := by omega
    rw [pow_one]
    exact Within.refl _ _
  | case3 n hgt half square heven ih =>
    have hsplit : x.value ^ n = x.value ^ (n / 2) * x.value ^ (n / 2) := by
      rw [← pow_add]
      congr 1
      omega
    rw [hsplit]
    exact (within_square hp (hpow _) ih).mono hs hs' (mul_nonneg (hpow _) (hpow _))
      square.value_nonneg (by omega)
  | case4 n hgt half square hodd ih =>
    have hsplit : x.value ^ n = x.value ^ (n / 2) * x.value ^ (n / 2) * x.value := by
      rw [← pow_add, ← pow_succ]
      congr 1
      omega
    have hsquare := within_square hp (hpow _) ih
    have hproduct := hsquare.mul hs (mul_nonneg (hpow _) (hpow _)) square.value_nonneg x.value_nonneg
      x.value_nonneg (Within.refl _ x.value)
    rw [hsplit]
    exact (hproduct.trans hs (within_mul hp square x)).mono hs hs'
      (mul_nonneg (mul_nonneg (hpow _) (hpow _)) x.value_nonneg) (value_nonneg _) (by omega)

/-- A power of one over a number is off by another part for each of its factors. -/
theorem within_pow_inverse (hp : 0 < p) (hx : 0 < x.coefficient) (n : Nat) :
    Within (1 - looseness p) (n + (2 * n - 2)) (x.value⁻¹ ^ n) (pow p (inverse p x) n).value := by
  have hs : 0 ≤ 1 - looseness p := sub_nonneg.mpr (looseness_le_one p)
  have hinverse := (within_inverse hp hx).pow hs (inv_nonneg.mpr x.value_nonneg) (value_nonneg _) n
  rw [Nat.one_mul] at hinverse
  exact hinverse.trans hs (within_pow hp _ n)

/-! ### Powers have many digits -/

variable {c : Nat}

lemma le_coefficient_mul (hp : 0 < p) (hc : c ≤ 10 ^ (p - 1)) (h : c ≤ x.coefficient * y.coefficient) :
    c ≤ (x.mul p y).coefficient :=
  le_coefficient_roundTo hp hc h

lemma le_coefficient_pow (hp : 0 < p) (hc : 0 < c) (hc' : c * c ≤ 10 ^ (p - 1)) (hx : c ≤ x.coefficient)
    (hn : 1 ≤ n) : c ≤ (pow p x n).coefficient := by
  have hself : c ≤ c * c := Nat.le_mul_self c
  fun_induction pow p x n with
  | case1 => omega
  | case2 => exact hx
  | case3 n hgt half square heven ih =>
    have hhalf := ih (by omega)
    exact le_coefficient_mul hp (by omega) (Nat.le_trans hself (Nat.mul_le_mul hhalf hhalf))
  | case4 n hgt half square hodd ih =>
    have hhalf := ih (by omega)
    have hsquare : c * c ≤ square.coefficient := le_coefficient_mul hp hc' (Nat.mul_le_mul hhalf hhalf)
    refine le_coefficient_mul hp (by omega) (Nat.le_trans ?_ (Nat.mul_le_mul hsquare hx))
    exact Nat.le_trans hself (Nat.le_mul_of_pos_right _ hc)

/-- The digits of a power from the second on are at least those of a square, as far as they are kept. -/
lemma mul_self_le_coefficient_pow (hp : 0 < p) (hc : 0 < c) (hc' : c * c ≤ 10 ^ (p - 1))
    (hx : c ≤ x.coefficient) (hn : 2 ≤ n) : c * c ≤ (pow p x n).coefficient := by
  have hhalf : c ≤ (pow p x (n / 2)).coefficient := le_coefficient_pow hp hc hc' hx (by omega)
  have hsquare : c * c ≤ ((pow p x (n / 2)).mul p (pow p x (n / 2))).coefficient :=
    le_coefficient_mul hp hc' (Nat.mul_le_mul hhalf hhalf)
  rw [pow, if_neg (by omega)]
  dsimp only
  split
  · exact hsquare
  · refine le_coefficient_mul hp hc' (Nat.le_trans hsquare ?_)
    exact Nat.le_mul_of_pos_right _ (Nat.lt_of_lt_of_le hc hx)

end Scaled

end TickWalk.Decimal
