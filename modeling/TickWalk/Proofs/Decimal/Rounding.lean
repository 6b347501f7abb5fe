import TickWalk.Decimal.Rounding
import Mathlib.Algebra.Group.Nat.Defs
import Mathlib.Algebra.Ring.Int.Defs
import Mathlib.Tactic.Lemma

/-!
# Rounding to significant bits

A rounded quotient is a nearest whole number, and an even one if two are equally near. Around any number
the numbers of so many significant bits that are not below its highest bit lie a power of two apart, so
that rounding to these bits is rounding a quotient by that power. A double has 53 of them.
-/

namespace TickWalk.Decimal

variable {den : Nat}

lemma roundQuotient_spec (num : Nat) (hden : 0 < den) :
    2 * (roundQuotient num den * den) ≤ 2 * num + den ∧
      2 * num ≤ 2 * (roundQuotient num den * den) + den ∧
      (2 * (roundQuotient num den * den) = 2 * num + den ∨
        2 * num = 2 * (roundQuotient num den * den) + den → roundQuotient num den % 2 = 0) := by
  have hdiv : num / den * den + num % den = num := Nat.div_add_mod' num den
  have hlt : num % den < den := Nat.mod_lt num hden
  unfold roundQuotient
  dsimp only
  generalize num / den = q at hdiv
  generalize num % den = r at hdiv hlt
  split
  · rename_i hup
    rw [Bool.or_eq_true, Bool.and_eq_true, decide_eq_true_eq, beq_iff_eq, beq_iff_eq] at hup
    rw [Nat.add_mul, Nat.one_mul]
    omega
  · rename_i hdown
    rw [Bool.or_eq_true, Bool.and_eq_true, decide_eq_true_eq, beq_iff_eq, beq_iff_eq] at hdown
    omega

/-- No multiple of the divisor is nearer to the dividend than the one that the rounded quotient gives,
and if another one is as near, the rounded quotient is even. -/
lemma roundQuotient_nearest (num : Nat) (hden : 0 < den) (c : Nat) :
    ((num : Int) - (roundQuotient num den * den : Nat)).natAbs ≤ ((num : Int) - (c * den : Nat)).natAbs ∧
      (((num : Int) - (c * den : Nat)).natAbs =
          ((num : Int) - (roundQuotient num den * den : Nat)).natAbs →
        c * den ≠ roundQuotient num den * den → roundQuotient num den % 2 = 0) := by
  obtain ⟨hhigh, hlow, heven⟩ := roundQuotient_spec num hden
  generalize roundQuotient num den = q at hhigh hlow heven
  rcases Nat.lt_trichotomy c q with hlt | rfl | hgt
  · have hstep : c * den + den ≤ q * den := by
      rw [← Nat.succ_mul]
      exact Nat.mul_le_mul_right den hlt
    omega
  · exact ⟨Nat.le_refl _, fun _ hne => absurd rfl hne⟩
  · have hstep : q * den + den ≤ c * den := by
      rw [← Nat.succ_mul]
      exact Nat.mul_le_mul_right den hgt
    omega

variable {bits n k : Nat}

/-- A number that has no more than `bits` significant bits. -/
def HasSignificand (bits n : Nat) : Prop := ∃ m e, m < 2 ^ bits ∧ n = m * 2 ^ e

lemma hasSignificand_of_le (hbits : 0 < bits) (h : n ≤ 2 ^ bits) : HasSignificand bits n := by
  rcases Nat.lt_or_eq_of_le h with hlt | rfl
  · exact ⟨n, 0, hlt, (Nat.mul_one n).symm⟩
  · exact ⟨1, bits, Nat.one_lt_two_pow (Nat.pos_iff_ne_zero.mp hbits), (Nat.one_mul _).symm⟩

/-- How far the numbers of `bits` significant bits lie apart around `n`. -/
def unitAt (bits n : Nat) : Nat := 2 ^ (n.log2 + 1 - bits)

/-- A number rounded to `bits` significant bits, a tie to the one whose last bit is zero. -/
def roundToBits (bits n : Nat) : Nat := roundQuotient n (unitAt bits n) * unitAt bits n

lemma hasSignificand_roundToBits (hbits : 0 < bits) (n : Nat) :
    HasSignificand bits (roundToBits bits n) := by
  have hunit : 0 < unitAt bits n := Nat.two_pow_pos _
  have hn : n < 2 ^ bits * unitAt bits n := by
    calc n < 2 ^ (n.log2 + 1) := Nat.lt_log2_self
      _ ≤ 2 ^ (bits + (n.log2 + 1 - bits)) := Nat.pow_le_pow_right (by decide) (by omega)
      _ = 2 ^ bits * unitAt bits n := Nat.pow_add 2 _ _
  have hquotient : roundQuotient n (unitAt bits n) ≤ 2 ^ bits := by
    obtain ⟨hhigh, -, -⟩ := roundQuotient_spec n hunit
    refine Nat.le_of_not_lt fun hlarge => ?_
    have hmul : (2 ^ bits + 1) * unitAt bits n ≤ roundQuotient n (unitAt bits n) * unitAt bits n :=
      Nat.mul_le_mul_right _ hlarge
    rw [Nat.add_mul, Nat.one_mul] at hmul
    omega
  obtain ⟨m, e, hm, heq⟩ := hasSignificand_of_le hbits hquotient
  refine ⟨m, e + (n.log2 + 1 - bits), hm, ?_⟩
  rw [roundToBits, heq, unitAt, Nat.pow_add, Nat.mul_assoc]

/-- What has `bits` significant bits is a whole number of units at `n`, or below the highest bit of `n`. -/
lemma HasSignificand.eq_mul_unitAt_or_lt (hk : HasSignificand bits k) (n : Nat) :
    (∃ c, k = c * unitAt bits n) ∨ k < 2 ^ n.log2 := by
  obtain ⟨m, e, hm, rfl⟩ := hk
  by_cases he : n.log2 + 1 - bits ≤ e
  · left
    refine ⟨m * 2 ^ (e - (n.log2 + 1 - bits)), ?_⟩
    rw [unitAt, Nat.mul_assoc, ← Nat.pow_add, Nat.sub_add_cancel he]
  · right
    calc m * 2 ^ e < 2 ^ bits * 2 ^ e := Nat.mul_lt_mul_of_pos_right hm (Nat.two_pow_pos e)
      _ = 2 ^ (bits + e) := (Nat.pow_add 2 _ _).symm
      _ ≤ 2 ^ n.log2 := Nat.pow_le_pow_right (by decide) (by omega)

/-- No number of `bits` significant bits is nearer to `n` than the one it is rounded to, and if another
one is as near, the rounded one is an even number of units. -/
lemma roundToBits_nearest (hbits : 0 < bits) (hk : HasSignificand bits k) :
    ((n : Int) - roundToBits bits n).natAbs ≤ ((n : Int) - k).natAbs ∧
      (((n : Int) - k).natAbs = ((n : Int) - roundToBits bits n).natAbs → k ≠ roundToBits bits n →
        2 * unitAt bits n ∣ roundToBits bits n) := by
  have hunit : 0 < unitAt bits n := Nat.two_pow_pos _
  have hmultiple (c : Nat) : ((n : Int) - roundToBits bits n).natAbs ≤
        ((n : Int) - (c * unitAt bits n : Nat)).natAbs ∧
      (((n : Int) - (c * unitAt bits n : Nat)).natAbs = ((n : Int) - roundToBits bits n).natAbs →
        c * unitAt bits n ≠ roundToBits bits n → 2 * unitAt bits n ∣ roundToBits bits n) := by
    obtain ⟨hle, heven⟩ := roundQuotient_nearest n hunit c
    refine ⟨hle, fun heq hne => ?_⟩
    exact Nat.mul_dvd_mul_right (Nat.dvd_of_mod_eq_zero (heven heq hne)) _
  by_cases hn : n = 0
  · have hzero : roundToBits bits n = 0 := by
      have hle := (hmultiple 0).1
      rw [Nat.zero_mul] at hle
      omega
    rw [hzero]
    exact ⟨by omega, fun _ _ => Nat.dvd_zero _⟩
  · rcases hk.eq_mul_unitAt_or_lt n with ⟨c, rfl⟩ | hlt
    · exact hmultiple c
    · -- The highest bit of `n` alone is a number of units that is nearer.
      have htop : 2 ^ (n.log2 - (n.log2 + 1 - bits)) * unitAt bits n = 2 ^ n.log2 := by
        rw [unitAt, ← Nat.pow_add, Nat.sub_add_cancel (by omega)]
      have hle := (hmultiple (2 ^ (n.log2 - (n.log2 + 1 - bits)))).1
      rw [htop] at hle
      have hself : 2 ^ n.log2 ≤ n := Nat.log2_self_le hn
      omega

/-- The nearest integer with a significand of 53 bits, a tie to the one whose significand is even. -/
def nearestDouble (i : Int) : Int :=
  if i < 0 then -(roundToBits 53 i.natAbs : Int) else roundToBits 53 i.natAbs

lemma natAbs_nearestDouble (i : Int) : (nearestDouble i).natAbs = roundToBits 53 i.natAbs := by
  unfold nearestDouble
  split
  · exact (Int.natAbs_neg _).trans (Int.natAbs_natCast _)
  · exact Int.natAbs_natCast _

lemma natAbs_sub_nearestDouble (i : Int) :
    (i - nearestDouble i).natAbs = ((i.natAbs : Int) - roundToBits 53 i.natAbs).natAbs := by
  unfold nearestDouble
  split
  · omega
  · omega

/-- No integer with a significand of 53 bits is nearer than the nearest one, and if another one is as
near, the last of the 53 bits of the nearest one is zero. -/
theorem nearestDouble_nearest (i : Int) :
    HasSignificand 53 (nearestDouble i).natAbs ∧
      ∀ k : Int, HasSignificand 53 k.natAbs →
        (i - nearestDouble i).natAbs ≤ (i - k).natAbs ∧
        ((i - k).natAbs = (i - nearestDouble i).natAbs → k ≠ nearestDouble i →
          2 * unitAt 53 i.natAbs ∣ (nearestDouble i).natAbs) := by
  rw [natAbs_nearestDouble, natAbs_sub_nearestDouble]
  refine ⟨hasSignificand_roundToBits (by decide) _, fun k hk => ?_⟩
  obtain ⟨hle, heven⟩ := roundToBits_nearest (n := i.natAbs) (by decide) hk
  have hzero : ((i.natAbs : Int) - roundToBits 53 i.natAbs).natAbs ≤
      ((i.natAbs : Int) - (0 : Nat)).natAbs :=
    (roundToBits_nearest (by decide) (hasSignificand_of_le (by decide) (Nat.zero_le _))).1
  refine ⟨by omega, fun heq hne => heven (by omega) fun hsize => hne ?_⟩
  unfold nearestDouble
  split
  · omega
  · omega

theorem nearestDouble_eq_self_iff {i : Int} : nearestDouble i = i ↔ HasSignificand 53 i.natAbs := by
  constructor
  · intro h
    rw [← h]
    exact (nearestDouble_nearest i).1
  · intro h
    have hle := ((nearestDouble_nearest i).2 i h).1
    omega

lemma nearestDouble_of_natAbs_le {i : Int} (h : i.natAbs ≤ 2 ^ 53) : nearestDouble i = i :=
  nearestDouble_eq_self_iff.mpr (hasSignificand_of_le (by decide) h)

/-- The first integers beyond are not, and go to their even neighbour. -/
example : nearestDouble (2 ^ 53 + 1) = 2 ^ 53 ∧ nearestDouble (-(2 ^ 53 + 3)) = -(2 ^ 53 + 4) := by decide

end TickWalk.Decimal
