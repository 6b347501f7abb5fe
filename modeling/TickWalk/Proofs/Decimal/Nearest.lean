import TickWalk.Decimal.Nearest
import TickWalk.Proofs.Decimal.Scaled

/-!
# How near the nearest binary number is

Numbers that are counted in steps of a grid and rounded are off by half a step at most. The 53 binary
digits of a number begin at its leading one, so that the nearest binary number is off by a small part of
it, as long as it is far from the least and the largest of them.
-/

namespace TickWalk.Decimal

variable {base num den : Nat}

/-! ### Grids -/

lemma inSteps_pos (hbase : 0 < base) (hden : 0 < den) (num : Nat) (place : Int) :
    0 < (inSteps base num den place).2 := by
  unfold inSteps
  split
  · exact Nat.mul_pos hden (Nat.pow_pos hbase)
  · exact hden

lemma div_inSteps (hbase : 0 < base) (num den : Nat) (place : Int) :
    ((inSteps base num den place).1 : ℚ) / (inSteps base num den place).2 =
      num / den / base ^ place := by
  have hne : (base : ℚ) ≠ 0 := by exact_mod_cast hbase.ne'
  unfold inSteps
  split
  · rename_i hplace
    obtain ⟨n, rfl⟩ := Int.eq_ofNat_of_zero_le hplace
    simp only [Int.toNat_natCast, Nat.pow_eq, Nat.cast_mul, Nat.cast_pow, zpow_natCast]
    rw [div_div]
  · rename_i hplace
    obtain ⟨n, hn⟩ := Int.eq_ofNat_of_zero_le (Int.neg_nonneg_of_nonpos (Int.not_le.mp hplace).le)
    obtain rfl : place = -(n : Int) := by omega
    simp only [neg_neg, Int.toNat_natCast, Nat.pow_eq, Nat.cast_mul, Nat.cast_pow, zpow_neg, zpow_natCast]
    field_simp

lemma inSteps_le_iff (hbase : 0 < base) (hden : 0 < den) (num : Nat) (place : Int) :
    (inSteps base num den place).2 ≤ (inSteps base num den place).1 ↔
      (base : ℚ) ^ place ≤ num / den := by
  have hpos : (0 : ℚ) < (inSteps base num den place).2 := by
    exact_mod_cast inSteps_pos hbase hden num place
  have hstep : (0 : ℚ) < base ^ place := zpow_pos (by exact_mod_cast hbase) place
  rw [← Nat.cast_le (α := ℚ), ← one_le_div hpos, div_inSteps hbase, one_le_div hstep]

lemma div_quotientOf (hbase : 0 < base) (m : Nat) (place : Int) :
    ((quotientOf base m place).1 : ℚ) / (quotientOf base m place).2 = m * base ^ place := by
  rw [quotientOf, div_inSteps hbase, Nat.cast_one, div_one, zpow_neg, div_inv_eq_mul]

lemma quotientOf_pos (hbase : 0 < base) (m : Nat) (place : Int) : 0 < (quotientOf base m place).2 :=
  inSteps_pos hbase Nat.one_pos m (-place)

lemma abs_roundQuotient_inSteps_sub_le (hbase : 0 < base) (hden : 0 < den) (num : Nat) (place : Int) :
    |(roundQuotient (inSteps base num den place).1 (inSteps base num den place).2 : ℚ) * base ^ place -
      num / den| ≤ base ^ place / 2 := by
  have hpos := inSteps_pos hbase hden num place
  have hdiv := div_inSteps hbase num den place
  have hround := abs_roundQuotient_sub_le (inSteps base num den place).1 hpos
  generalize (inSteps base num den place).1 = n at *
  generalize (inSteps base num den place).2 = d at *
  have hd : (0 : ℚ) < d := by exact_mod_cast hpos
  have hstep : (0 : ℚ) < base ^ place := zpow_pos (by exact_mod_cast hbase) place
  have hnumber : (num : ℚ) / den = n / d * base ^ place := by
    rw [hdiv, div_mul_cancel₀ _ hstep.ne']
  have hsplit : (roundQuotient n d : ℚ) * base ^ place - n / d * base ^ place =
      (roundQuotient n d * d - n) * (base ^ place / d) := by field_simp
  calc |(roundQuotient n d : ℚ) * base ^ place - num / den|
      = |(roundQuotient n d * d - n : ℚ)| * (base ^ place / d) := by
        rw [hnumber, hsplit, abs_mul, abs_of_pos (div_pos hstep hd)]
    _ ≤ d / 2 * (base ^ place / d) := mul_le_mul_of_nonneg_right hround (div_pos hstep hd).le
    _ = base ^ place / 2 := by field_simp

/-! ### The leading binary digit -/

lemma zpow_log2_le {n : Nat} (hn : 0 < n) : (2 : ℚ) ^ (n.log2 : Int) ≤ n := by
  rw [zpow_natCast]
  exact_mod_cast Nat.log2_self_le hn.ne'

lemma lt_zpow_log2 (n : Nat) : (n : ℚ) < 2 ^ ((n.log2 : Int) + 1) := by
  have hlt : n < 2 ^ (n.log2 + 1) := Nat.lt_log2_self
  exact_mod_cast hlt

/-- The binary lengths of two numbers leave two places for the leading bit of their quotient. -/
lemma zpow_log2_sub_le_div (hnum : 0 < num) (hden : 0 < den) :
    (2 : ℚ) ^ ((num.log2 : Int) - den.log2 - 1) ≤ num / den := by
  have hd : (0 : ℚ) < den := by exact_mod_cast hden
  rw [le_div_iff₀ hd]
  calc (2 : ℚ) ^ ((num.log2 : Int) - den.log2 - 1) * den
      ≤ 2 ^ ((num.log2 : Int) - den.log2 - 1) * 2 ^ ((den.log2 : Int) + 1) := by
        gcongr
        exact (lt_zpow_log2 den).le
    _ = 2 ^ (num.log2 : Int) := by
        rw [← zpow_add₀ (by norm_num)]
        congr 1
        omega
    _ ≤ num := zpow_log2_le hnum

lemma div_lt_zpow_log2_sub (num : Nat) (hden : 0 < den) :
    (num : ℚ) / den < 2 ^ ((num.log2 : Int) - den.log2 + 1) := by
  have hd : (0 : ℚ) < den := by exact_mod_cast hden
  rw [div_lt_iff₀ hd]
  calc (num : ℚ) < 2 ^ ((num.log2 : Int) + 1) := lt_zpow_log2 num
    _ = 2 ^ ((num.log2 : Int) - den.log2 + 1) * 2 ^ (den.log2 : Int) := by
        rw [← zpow_add₀ (by norm_num)]
        congr 1
        omega
    _ ≤ 2 ^ ((num.log2 : Int) - den.log2 + 1) * den := by
        gcongr
        exact zpow_log2_le hden

lemma leadingBit_spec (hnum : 0 < num) (hden : 0 < den) :
    (2 : ℚ) ^ (leadingBit num den - 1) ≤ num / den ∧
      (num : ℚ) / den < 2 ^ leadingBit num den := by
  have hlow := zpow_log2_sub_le_div hnum hden
  have hhigh := div_lt_zpow_log2_sub num hden
  unfold leadingBit
  dsimp only
  split
  · rename_i hge
    rw [Int.add_sub_cancel]
    exact ⟨(inSteps_le_iff (by decide) hden num _).mp hge, hhigh⟩
  · rename_i hlt
    exact ⟨hlow, not_le.mp (mt (inSteps_le_iff (by decide) hden num _).mpr hlt)⟩

/-! ### The nearest binary number -/

/-- Far from the ends of the binary numbers, the nearest one is off by a small part. -/
theorem nearest_spec (negative : Bool) (num : Nat) (hden : 0 < den)
    (hleast : (2 : ℚ) ^ (-1022 : Int) ≤ num / den)
    (hmost : (num : ℚ) / den < 2 ^ (1023 : Int)) :
    ∃ m e, Parts.nearest negative num den = .finite negative m e ∧
      |(m : ℚ) * 2 ^ e - num / den| ≤ num / den / 2 ^ 53 := by
  have hnum : num ≠ 0 := by
    rintro rfl
    rw [Nat.cast_zero, zero_div] at hleast
    exact absurd hleast (not_le.mpr (by positivity))
  obtain ⟨hlow, hhigh⟩ := leadingBit_spec (Nat.pos_of_ne_zero hnum) hden
  have hk : -1022 < leadingBit num den :=
    (zpow_lt_zpow_iff_right₀ (by norm_num : (1 : ℚ) < 2)).mp (lt_of_le_of_lt hleast hhigh)
  have hk' : leadingBit num den - 1 < 1023 :=
    (zpow_lt_zpow_iff_right₀ (by norm_num : (1 : ℚ) < 2)).mp (lt_of_le_of_lt hlow hmost)
  have hplace : max (leadingBit num den - 53) (-1074) = leadingBit num den - 53 := max_eq_left (by omega)
  have hround := abs_roundQuotient_inSteps_sub_le (by decide : 0 < 2) hden num (leadingBit num den - 53)
  have hsplit : (2 : ℚ) ^ (leadingBit num den - 1) = 2 ^ (leadingBit num den - 53) * 2 ^ 52 :=
    zpow_eq_mul_pow (by norm_num) (by omega)
  have herror : (2 : ℚ) ^ (leadingBit num den - 53) / 2 ≤ num / den / 2 ^ 53 := by
    rw [hsplit] at hlow
    rw [le_div_iff₀ (by positivity)]
    linarith
  rw [Nat.cast_ofNat] at hround
  unfold Parts.nearest
  dsimp only
  rw [if_neg hnum, hplace]
  generalize roundQuotient (inSteps 2 num den (leadingBit num den - 53)).1
    (inSteps 2 num den (leadingBit num den - 53)).2 = m at *
  split
  · rename_i hcarry
    rw [if_neg (by omega)]
    refine ⟨_, _, rfl, le_trans (le_of_eq ?_) (le_trans hround herror)⟩
    rw [hcarry, zpow_add_one₀ (by norm_num)]
    norm_num
    ring_nf
  · rw [if_neg (by omega)]
    exact ⟨_, _, rfl, le_trans hround herror⟩

end TickWalk.Decimal
