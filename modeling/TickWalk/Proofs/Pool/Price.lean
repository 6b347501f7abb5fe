import TickWalk.Domain
import TickWalk.Pool.Price
import TickWalk.Proofs.Decimal.Reading
import TickWalk.Proofs.Decimal.Scaled

/-!
# Prices of ticks

The price that is worked out for a tick is near the power that it stands for: the digits that the power
is worked out with are so many more than those of the price that all its products together lose less than
a tenth of a unit of its last digit. Two ticks differ by a ten-thousandth of the price at least, which is
more than even eight digits lose, so that prices keep the order of their ticks, written in full or with
eight digits. All of the eight are needed but for the ticks zero and one, and they are those of a whole
number in one range of ticks.
-/

namespace TickWalk.Price

open Decimal

/-! ### The power before it is rounded -/

def ratio : ℚ := 10001 / 10000

lemma value_base : base.value = ratio := by
  norm_num [base, ratio, Scaled.value]

lemma ratio_pos : 0 < ratio := by norm_num [ratio]

/-- The price with the digits that it is worked out with. -/
def unrounded (tick : Int) : Scaled :=
  let working := precision + digitCount tick.natAbs + 2
  if tick < 0 then (base.inverse (working + 1)).pow (working + 1) tick.natAbs
  else base.pow working tick.natAbs

lemma ofTick_eq (tick : Int) : ofTick tick = (unrounded tick).roundTo precision := by
  unfold ofTick unrounded
  dsimp only
  split
  · rfl
  · rfl

/-- All products together lose less than a tenth of a unit of the last digit. -/
theorem within_unrounded (tick : Int) :
    Within (1 - 1 / 10 ^ 51) 1 (ratio ^ tick) (unrounded tick).value := by
  have hcount : tick.natAbs < 10 ^ digitCount tick.natAbs := lt_pow_digitCount _
  have hpower : 0 ≤ ratio ^ tick := zpow_nonneg ratio_pos.le tick
  have hworking : precision + digitCount tick.natAbs + 2 = 52 + digitCount tick.natAbs := by
    unfold precision
    omega
  unfold unrounded
  dsimp only
  rw [hworking]
  split
  · rename_i hneg
    have hparts : tick.natAbs + (2 * tick.natAbs - 2) ≤ 2 * 10 ^ (digitCount tick.natAbs + 1) := by
      rw [Nat.pow_succ]
      omega
    have hratio : ratio ^ tick = base.value⁻¹ ^ tick.natAbs := by
      rw [value_base, ← zpow_natCast, Int.ofNat_natAbs_of_nonpos hneg.le, inv_zpow', neg_neg]
    have hpow := Scaled.within_pow_inverse (p := 52 + (digitCount tick.natAbs + 1)) (x := base)
      (Nat.succ_pos _) (by decide) tick.natAbs
    rw [hratio] at hpower ⊢
    rw [Nat.add_assoc]
    exact Within.of_parts (p := 52) (by decide) hparts hpower (Scaled.value_nonneg _) hpow
  · rename_i hnonneg
    have hparts : 2 * tick.natAbs - 2 ≤ 2 * 10 ^ digitCount tick.natAbs := by omega
    have hratio : ratio ^ tick = base.value ^ tick.natAbs := by
      rw [value_base, ← zpow_natCast, Int.natAbs_of_nonneg (Int.not_lt.mp hnonneg)]
    have hpow := Scaled.within_pow (p := 52 + digitCount tick.natAbs) (by omega) base tick.natAbs
    rw [hratio] at hpower ⊢
    exact Within.of_parts (p := 52) (by decide) hparts hpower (Scaled.value_nonneg _) hpow

/-! ### The price -/

/-- A part of a price that is more than it loses, with eight digits even. -/
def margin : ℚ := 1 - 1 / 10 ^ 7

lemma within_ofTick (tick : Int) : Within margin 2 (ratio ^ tick) (ofTick tick).value := by
  have hpower : 0 ≤ ratio ^ tick := zpow_nonneg ratio_pos.le tick
  have hpow : Within margin 1 (ratio ^ tick) (unrounded tick).value := by
    refine Within.of_le ?_ hpower (Scaled.value_nonneg _) (within_unrounded tick)
    norm_num [margin]
  have hround : Within margin 1 (unrounded tick).value (ofTick tick).value := by
    rw [ofTick_eq]
    refine Within.of_le ?_ (Scaled.value_nonneg _) (Scaled.value_nonneg _)
      (Scaled.within_roundTo (by decide) _)
    norm_num [margin, looseness, precision]
  exact hpow.trans (by norm_num [margin]) hround

lemma within_shown (tick : Int) : Within margin 3 (ratio ^ tick) ((ofTick tick).roundTo 8).value := by
  have hround : Within margin 1 (ofTick tick).value ((ofTick tick).roundTo 8).value := by
    refine Within.of_le ?_ (Scaled.value_nonneg _) (Scaled.value_nonneg _)
      (Scaled.within_roundTo (by decide) _)
    norm_num [margin, looseness]
  exact (within_ofTick tick).trans (by norm_num [margin]) hround

lemma ratio_zpow_mul_le {a b : Int} (h : a < b) : ratio ^ a * ratio ≤ ratio ^ b := by
  rw [← zpow_add_one₀ ratio_pos.ne']
  exact zpow_le_zpow_right₀ (by norm_num [ratio]) (Int.add_one_le_iff.mpr h)

lemma value_ofTick_lt {a b : Int} (h : a < b) : (ofTick a).value < (ofTick b).value :=
  (within_ofTick a).lt_of_mul_le (by norm_num [margin]) (zpow_pos ratio_pos a) (within_ofTick b)
    (ratio_zpow_mul_le h) (by norm_num [margin, ratio])

lemma value_roundTo_ofTick_lt {a b : Int} (h : a < b) :
    ((ofTick a).roundTo 8).value < ((ofTick b).roundTo 8).value :=
  (within_shown a).lt_of_mul_le (by norm_num [margin]) (zpow_pos ratio_pos a) (within_shown b)
    (ratio_zpow_mul_le h) (by norm_num [margin, ratio])

lemma coefficient_ofTick_pos (tick : Int) : 0 < (ofTick tick).coefficient := by
  rw [Nat.pos_iff_ne_zero]
  intro hzero
  have hless := (within_ofTick tick).1
  have hpos : 0 < ratio ^ tick * margin ^ 2 :=
    mul_pos (zpow_pos ratio_pos tick) (pow_pos (by norm_num [margin]) 2)
  rw [Scaled.value, hzero, Nat.cast_zero, zero_mul] at hless
  exact absurd hless (not_le.mpr hpos)

lemma coefficient_ofTick_lt (tick : Int) : (ofTick tick).coefficient < 10 ^ 50 := by
  rw [ofTick_eq]
  exact Scaled.coefficient_roundTo_lt (by decide) _

/-- A price has no more places on either side of the point than its tick is steps away from one. -/
lemma adjusted_ofTick_mem (tick : Int) :
    -(tick.natAbs : Int) - 1 ≤ (ofTick tick).adjusted ∧ (ofTick tick).adjusted ≤ tick.natAbs := by
  have hratio : 1 ≤ ratio := by norm_num [ratio]
  have hten : ratio ^ (tick.natAbs : Int) ≤ 10 ^ (tick.natAbs : Int) :=
    zpow_le_zpow_left₀ (Int.natCast_nonneg _) ratio_pos.le (by norm_num [ratio])
  have hmost : ratio ^ tick ≤ 10 ^ (tick.natAbs : Int) :=
    le_trans (zpow_le_zpow_right₀ hratio Int.le_natAbs) hten
  have hleast : (10 : ℚ) ^ (-(tick.natAbs : Int)) ≤ ratio ^ tick := by
    refine le_trans ?_ (zpow_le_zpow_right₀ hratio (by omega : -(tick.natAbs : Int) ≤ tick))
    rw [zpow_neg, zpow_neg]
    exact inv_anti₀ (zpow_pos ratio_pos _) hten
  obtain ⟨hless, hmore⟩ := within_ofTick tick
  have hlow := Scaled.le_value (coefficient_ofTick_pos tick)
  have hhigh := (ofTick tick).value_lt
  norm_num [margin] at hless hmore
  constructor
  · have hpow : (10 : ℚ) ^ (-(tick.natAbs : Int) - 1) < 10 ^ ((ofTick tick).adjusted + 1) := by
      rw [zpow_sub_one₀ (by norm_num)]
      linarith [zpow_pos (by norm_num : (0 : ℚ) < 10) (-(tick.natAbs : Int))]
    have hlt := (zpow_lt_zpow_iff_right₀ (by norm_num)).mp hpow
    omega
  · have hpow : (10 : ℚ) ^ (ofTick tick).adjusted < 10 ^ ((tick.natAbs : Int) + 1) := by
      rw [zpow_add_one₀ (by norm_num)]
      linarith [zpow_pos (by norm_num : (0 : ℚ) < 10) (tick.natAbs : Int)]
    exact Int.lt_add_one_iff.mp ((zpow_lt_zpow_iff_right₀ (by norm_num)).mp hpow)

lemma mem_ticks {tick : Int} (h : KeyDomain.ticks.contains tick = true) :
    -887272 ≤ tick ∧ tick ≤ 887272 := by
  rw [KeyDomain.contains, Bool.and_eq_true, decide_eq_true_eq, decide_eq_true_eq] at h
  exact h

lemma ofValue_int {tick : Int} (h : KeyDomain.ticks.contains tick = true) :
    ofValue (.int tick) = .ok (ofTick tick) := by
  have hdomain : tick.natAbs ≤ 887272 := by
    obtain ⟨hleast, hmost⟩ := mem_ticks h
    omega
  obtain ⟨hlow, hhigh⟩ := adjusted_ofTick_mem tick
  have hdigits : digitCount (ofTick tick).coefficient ≤ 50 :=
    (digitCount_le_iff (by decide)).mpr (coefficient_ofTick_lt tick)
  have hhigh' : ¬ (exponentLimit : Int) < (ofTick tick).adjusted := by
    unfold exponentLimit
    omega
  have hlow' : ¬ (ofTick tick).exponent < leastPlace := by
    unfold leastPlace exponentLimit precision
    unfold Scaled.adjusted at hlow
    omega
  change limited (ofTick tick) = _
  rw [limited, if_neg hhigh', if_neg hlow']

/-- Fifty digits are off by less than a unit of the last of them. -/
lemma abs_value_ofTick_sub_lt (tick : Int) :
    |(ofTick tick).value - ratio ^ tick| < 10 ^ ((ofTick tick).adjusted - 49) := by
  obtain ⟨hlow, hhigh⟩ := within_unrounded tick
  obtain ⟨hless, -⟩ := Scaled.within_roundTo (p := precision) (by decide) (unrounded tick)
  have hround := Scaled.abs_value_roundTo_sub_le_adjusted (p := precision) (by decide) (unrounded tick)
  have hsize := (ofTick tick).value_lt
  have hplace : (ofTick tick).adjusted + 1 - precision = (ofTick tick).adjusted - 49 := by
    unfold precision
    omega
  rw [← ofTick_eq, hplace] at hround
  rw [← ofTick_eq, pow_one, looseness] at hless
  rw [pow_one] at hlow hhigh
  have hunit : (10 : ℚ) ^ ((ofTick tick).adjusted + 1) = 10 ^ ((ofTick tick).adjusted - 49) * 10 ^ 50 :=
    zpow_eq_mul_pow (by norm_num) (by omega)
  rw [hunit] at hsize
  rw [abs_le] at hround
  have hpower : 0 < ratio ^ tick := zpow_pos ratio_pos tick
  have hworked : 0 ≤ (unrounded tick).value := Scaled.value_nonneg _
  generalize (10 : ℚ) ^ ((ofTick tick).adjusted - 49) = unit at *
  generalize (unrounded tick).value = u at *
  rw [abs_lt]
  norm_num [precision] at hlow hhigh hless hsize
  constructor
  · linarith
  · linarith

/-! ### Eight digits -/

lemma le_coefficient_ofTick {tick : Int} (hzero : tick ≠ 0) (hone : tick ≠ 1) :
    10 ^ 8 ≤ (ofTick tick).coefficient := by
  rw [ofTick_eq]
  refine Scaled.le_coefficient_roundTo (by decide) (by decide) ?_
  unfold unrounded
  dsimp only
  split
  · have hlarge : 10 ^ 8 * 10 ^ 8 ≤ 10 ^ (precision + digitCount tick.natAbs + 2 + 1 - 1) := by
      rw [← Nat.pow_add]
      exact Nat.pow_le_pow_right (by decide) (by unfold precision; omega)
    refine Scaled.le_coefficient_pow (c := 10 ^ 8) (Nat.succ_pos _) (by decide) hlarge ?_ (by omega)
    have hinverse := Scaled.le_coefficient_inverse (x := base)
      (Nat.succ_pos (precision + digitCount tick.natAbs + 2)) (by decide)
    exact Nat.le_trans (by decide : 10 ^ 8 ≤ 10 ^ 8 * 10 ^ 8) (Nat.le_trans hlarge hinverse)
  · have hlarge : 10001 * 10001 ≤ 10 ^ (precision + digitCount tick.natAbs + 2 - 1) :=
      Nat.le_trans (by decide : 10001 * 10001 ≤ 10 ^ 9)
        (Nat.pow_le_pow_right (by decide) (by unfold precision; omega))
    refine Nat.le_trans (by decide : 10 ^ 8 ≤ 10001 * 10001) ?_
    exact Scaled.mul_self_le_coefficient_pow (c := 10001) (Nat.succ_pos _) (by decide) hlarge
      (Nat.le_refl 10001) (by omega)

lemma coefficient_shown {tick : Int} (hzero : tick ≠ 0) (hone : tick ≠ 1) :
    10 ^ 7 ≤ ((ofTick tick).roundTo 8).coefficient ∧ ((ofTick tick).roundTo 8).coefficient < 10 ^ 8 := by
  refine Scaled.coefficient_roundTo (p := 8) (by decide) ?_
  have hlarge := le_coefficient_ofTick hzero hone
  by_contra hfew
  exact Nat.not_lt.mpr hlarge ((digitCount_le_iff (by decide)).mp (Nat.not_lt.mp hfew))

lemma ofTick_zero : ofTick 0 = Scaled.one := by
  rw [ofTick_eq, unrounded, if_neg (by decide), Int.natAbs_zero, Scaled.pow, if_pos (Nat.zero_le 1),
    if_pos rfl]
  exact Scaled.roundTo_of_digitCount_le (by decide)

lemma ofTick_one : ofTick 1 = base := by
  rw [ofTick_eq, unrounded, if_neg (by decide), Int.natAbs_one, Scaled.pow, if_pos (Nat.le_refl 1),
    if_neg (by decide)]
  exact Scaled.roundTo_of_digitCount_le (by decide)

lemma le_mul_ratio_pow_iff (a b n : Nat) :
    (a : ℚ) ≤ b * ratio ^ (n : Int) ↔ a * 10000 ^ n ≤ b * 10001 ^ n := by
  rw [ratio, zpow_natCast, div_pow, mul_div_assoc', le_div_iff₀ (by positivity)]
  exact_mod_cast Iff.rfl

lemma le_value_shown_iff {d n : Nat} (hlow : ¬ d * 9999999 ^ 3 * 10000 ^ n ≤ 10 ^ 21 * 10001 ^ n)
    (hhigh : d * 10 ^ 21 * 10000 ^ (n + 1) ≤ 9999999 ^ 3 * 10001 ^ (n + 1)) (tick : Int) :
    (d : ℚ) ≤ ((ofTick tick).roundTo 8).value ↔ (n : Int) + 1 ≤ tick := by
  have hratio : 1 ≤ ratio := by norm_num [ratio]
  obtain ⟨hless, hmore⟩ := within_shown tick
  rw [← le_mul_ratio_pow_iff, not_le] at hlow
  rw [← le_mul_ratio_pow_iff] at hhigh
  norm_num [margin] at hless hmore hlow hhigh
  constructor
  · intro hvalue
    by_contra hsmall
    have hpow : ratio ^ tick ≤ ratio ^ n := by
      rw [← zpow_natCast]
      exact zpow_le_zpow_right₀ hratio (by omega)
    linarith
  · intro hlarge
    have hpow : ratio ^ ((n : Int) + 1) ≤ ratio ^ tick := zpow_le_zpow_right₀ hratio hlarge
    linarith

lemma exponent_eq_zero_iff {c : ℚ} {e : Int} (hlow : 10 ^ 7 ≤ c) (hhigh : c < 10 ^ 8) :
    e = 0 ↔ 10 ^ 7 ≤ c * 10 ^ e ∧ c * 10 ^ e < 10 ^ 8 := by
  constructor
  · rintro rfl
    rw [zpow_zero, mul_one]
    exact ⟨hlow, hhigh⟩
  · rintro ⟨hless, hmore⟩
    rcases lt_trichotomy e 0 with hneg | hsame | hpos
    · have hpow : (10 : ℚ) ^ e ≤ 10 ^ (-1 : Int) := zpow_le_zpow_right₀ (by norm_num) (by omega)
      norm_num at hpow
      have hproduct : c * 10 ^ e ≤ c * (1 / 10) := by gcongr
      linarith
    · exact hsame
    · have hpow : (10 : ℚ) ^ (1 : Int) ≤ 10 ^ e := zpow_le_zpow_right₀ (by norm_num) (by omega)
      norm_num at hpow
      have hproduct : c * 10 ≤ c * 10 ^ e := by gcongr
      linarith

lemma exponent_shown_eq_zero_iff (tick : Int) :
    ((ofTick tick).roundTo 8).exponent = 0 ↔ tick = 0 ∨ 161190 ≤ tick ∧ tick ≤ 184216 := by
  by_cases hzero : tick = 0
  · rw [hzero, ofTick_zero, Scaled.roundTo_of_digitCount_le (by decide)]
    exact iff_of_true rfl (.inl rfl)
  by_cases hone : tick = 1
  · rw [hone, ofTick_one, Scaled.roundTo_of_digitCount_le (by decide)]
    exact iff_of_false (by decide) (by decide)
  have hleast := le_value_shown_iff (d := 10 ^ 7) (n := 161189) (by decide +kernel)
    (by decide +kernel) tick
  have hmost := le_value_shown_iff (d := 10 ^ 8) (n := 184216) (by decide +kernel)
    (by decide +kernel) tick
  obtain ⟨hlow, hhigh⟩ := coefficient_shown hzero hone
  have hlow : (10 : ℚ) ^ 7 ≤ ((ofTick tick).roundTo 8).coefficient := by exact_mod_cast hlow
  have hhigh : (((ofTick tick).roundTo 8).coefficient : ℚ) < 10 ^ 8 := by exact_mod_cast hhigh
  rw [Nat.cast_pow, Nat.cast_ofNat] at hleast hmost
  rw [exponent_eq_zero_iff hlow hhigh, ← Scaled.value, hleast, ← not_le, hmost, not_le]
  omega

/-- The prices of a pool's ticks have no more than fifty places on either side of the point. -/
lemma value_shown_mem {tick : Int} (h : KeyDomain.ticks.contains tick = true) :
    (10 : ℚ) ^ (-50 : Int) ≤ ((ofTick tick).roundTo 8).value ∧
      ((ofTick tick).roundTo 8).value ≤ 10 ^ (50 : Int) := by
  have hratio : 1 ≤ ratio := by norm_num [ratio]
  obtain ⟨hdomain, hdomain'⟩ := mem_ticks h
  have hpower : ratio ^ (900000 : Int) ≤ 10 ^ 45 := by
    have hten : ratio ^ (20000 : Int) ≤ 10 := by
      have hless : ¬ ((10 : Nat) : ℚ) ≤ (1 : Nat) * ratio ^ ((20000 : Nat) : Int) := by
        rw [le_mul_ratio_pow_iff]
        decide +kernel
      push_cast at hless
      linarith
    calc ratio ^ (900000 : Int) = (ratio ^ (20000 : Int)) ^ 45 := by
          rw [← zpow_natCast, ← zpow_mul]
          rfl
      _ ≤ 10 ^ 45 := pow_le_pow_left₀ (zpow_nonneg ratio_pos.le _) hten 45
  have hmost : ratio ^ tick ≤ 10 ^ 45 := le_trans (zpow_le_zpow_right₀ hratio (by omega)) hpower
  have hleast : ((10 : ℚ) ^ 45)⁻¹ ≤ ratio ^ tick := by
    refine le_trans (inv_anti₀ (zpow_pos ratio_pos _) hpower) ?_
    rw [← zpow_neg]
    exact zpow_le_zpow_right₀ hratio (by omega)
  obtain ⟨hless, hmore⟩ := within_shown tick
  norm_num [margin] at hless hmore hmost hleast ⊢
  constructor
  · linarith
  · linarith

/-! ### The order of prices -/

lemma read?_shown (tick : Int) : Scientific.read? (shown tick).toList =
    some ⟨false, ((ofTick tick).roundTo 8).coefficient, ((ofTick tick).roundTo 8).exponent⟩ :=
  (ofTick tick).read?_general 8

/-- A price can be worked out for every tick of a pool: it has fifty digits at most, and differs from the
power of the ratio by less than a unit of the fiftieth. The price of the tick zero is one. Prices are in
the strict order of their ticks, and so are the numbers that their texts of eight digits read as. -/
theorem in_order_of_ticks :
    (∀ tick : Int, KeyDomain.ticks.contains tick = true →
      ofValue (.int tick) = .ok (ofTick tick) ∧ (ofTick tick).coefficient < 10 ^ 50 ∧
        |(ofTick tick).value - (10001 / 10000) ^ tick| < 10 ^ ((ofTick tick).adjusted - 49)) ∧
    ofValue (.int 0) = .ok Scaled.one ∧
    ∀ a b : Int, KeyDomain.ticks.contains a = true → KeyDomain.ticks.contains b = true → a < b →
      (ofTick a).value < (ofTick b).value ∧ shown a ≠ shown b ∧
        ∃ s t, Scientific.read? (shown a).toList = some s ∧ Scientific.read? (shown b).toList = some t ∧
          s.value < t.value := by
  refine ⟨?_, ?_, ?_⟩
  · intro tick h
    exact ⟨ofValue_int h, coefficient_ofTick_lt tick, abs_value_ofTick_sub_lt tick⟩
  · rw [ofValue_int (by decide), ofTick_zero]
  · intro a b _ _ hlt
    have hshown := value_roundTo_ofTick_lt hlt
    rw [← Scaled.value_written, ← Scaled.value_written] at hshown
    refine ⟨value_ofTick_lt hlt, ?_, _, _, read?_shown a, read?_shown b, hshown⟩
    intro hsame
    have hread := read?_shown a
    rw [hsame, read?_shown b] at hread
    rw [Option.some.inj hread] at hshown
    exact lt_irrefl _ hshown

theorem in_order_of_ticks_below_one :
    KeyDomain.ticks.contains (-1) = true ∧ KeyDomain.ticks.contains 0 = true ∧ (-1 : Int) < 0 ∧
      (ofTick (-1)).value < (ofTick 0).value :=
  ⟨by decide, by decide, by decide, (in_order_of_ticks.2.2 (-1) 0 (by decide) (by decide) (by decide)).1⟩

end TickWalk.Price
