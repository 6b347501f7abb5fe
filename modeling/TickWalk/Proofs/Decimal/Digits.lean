import TickWalk.Decimal.Layout
import TickWalk.Proofs.Decimal.Nearest
import TickWalk.Proofs.Decimal.Reading
import Mathlib.Data.List.DropRight

/-!
# Binary numbers in six digits

A binary number that is written with six digits reads back as a number of six digits at most, and as the
nearest of those around it. A decimal number of six digits that is stored as the nearest binary number
therefore comes out again, and one that needs more digits does not.
-/

namespace TickWalk.Decimal

variable {num den n : Nat} {ds : List Char}

/-! ### The leading digit -/

/-- The loop multiplies by ten and counts down, so that it always speaks of the same number. -/
lemma below_spec (hden : 0 < den) {fuel n : Nat} (hlt : n < den) (hfuel : den ≤ n * 10 ^ fuel)
    (k : Int) :
    (10 : ℚ) ^ (leadingPlace.below den fuel n k - 1) ≤ n / den * 10 ^ k ∧
      (n : ℚ) / den * 10 ^ k < 10 ^ leadingPlace.below den fuel n k := by
  have hd : (0 : ℚ) < den := by exact_mod_cast hden
  induction fuel generalizing n k with
  | zero =>
    rw [Nat.pow_zero, Nat.mul_one] at hfuel
    exact absurd hlt (Nat.not_lt.mpr hfuel)
  | succ fuel ih =>
    unfold leadingPlace.below
    split
    · rename_i hten
      have hten : (den : ℚ) ≤ n * 10 := by exact_mod_cast hten
      have hlt : (n : ℚ) / den < 1 := (div_lt_one hd).mpr (by exact_mod_cast hlt)
      have hk : (0 : ℚ) < 10 ^ k := by positivity
      constructor
      · rw [zpow_sub_one₀ (by norm_num), mul_comm, ← div_eq_inv_mul]
        rw [div_le_iff₀ (by norm_num)]
        have hone : 1 ≤ (n : ℚ) / den * 10 := by
          rw [div_mul_eq_mul_div, one_le_div hd]
          exact hten
        calc (10 : ℚ) ^ k = 1 * 10 ^ k := (one_mul _).symm
          _ ≤ n / den * 10 * 10 ^ k := mul_le_mul_of_nonneg_right hone hk.le
          _ = n / den * 10 ^ k * 10 := by ring
      · exact mul_lt_of_lt_one_left hk hlt
    · rename_i hten
      have hsame : ((n * 10 : Nat) : ℚ) / den * 10 ^ (k - 1) = n / den * 10 ^ k := by
        rw [zpow_sub_one₀ (by norm_num), Nat.cast_mul, Nat.cast_ofNat]
        field_simp
      rw [← hsame]
      refine ih (Nat.not_le.mp hten) ?_ (k - 1)
      rw [Nat.mul_assoc, ← Nat.pow_succ']
      exact hfuel

lemma leadingPlace_spec (hden : 0 < den) (hleast : (10 : ℚ) ^ (-400 : Int) ≤ num / den) :
    (10 : ℚ) ^ (leadingPlace num den - 1) ≤ num / den ∧
      (num : ℚ) / den < 10 ^ leadingPlace num den := by
  have hd : (0 : ℚ) < den := by exact_mod_cast hden
  unfold leadingPlace
  split
  · rename_i hge
    have hquotient : 0 < num / den := Nat.div_pos hge hden
    have hpos := digitCount_pos (num / den)
    change (10 : ℚ) ^ ((digitCount (num / den) : Int) - 1) ≤ num / den ∧
      (num : ℚ) / den < 10 ^ (digitCount (num / den) : Int)
    have hsub : (digitCount (num / den) : Int) - 1 = (digitCount (num / den) - 1 : Nat) := by omega
    rw [hsub, zpow_natCast, zpow_natCast, le_div_iff₀ hd, div_lt_iff₀ hd]
    have hlow : 10 ^ (digitCount (num / den) - 1) * den ≤ num :=
      Nat.le_trans (Nat.mul_le_mul_right den (pow_digitCount_le hquotient)) (Nat.div_mul_le_self num den)
    have hhigh : num < 10 ^ digitCount (num / den) * den :=
      (Nat.div_lt_iff_lt_mul hden).mp (lt_pow_digitCount (num / den))
    exact ⟨by exact_mod_cast hlow, by exact_mod_cast hhigh⟩
  · rename_i hlt
    have hfuel : den ≤ num * 10 ^ 400 := by
      rw [zpow_neg, le_div_iff₀ hd, ← div_eq_inv_mul, div_le_iff₀ (by positivity)] at hleast
      exact_mod_cast hleast
    have hspec := below_spec hden (Nat.not_le.mp hlt) hfuel 0
    rwa [zpow_zero, mul_one] at hspec

/-! ### Digits -/

lemma natOfDigits_lt (h : ∀ c ∈ ds, c.isDigit = true) : natOfDigits ds < 10 ^ ds.length := by
  induction ds using List.reverseRecOn with
  | nil => exact Nat.one_pos
  | append_singleton ds c ih =>
    have hc := (Text.toNat_of_isDigit (h c (List.mem_append_right _ (List.mem_singleton_self c)))).2
    have hds := ih fun d hd => h d (List.mem_append_left _ hd)
    have hsplit : natOfDigits (ds ++ [c]) = 10 * natOfDigits ds + (c.toNat - 48) := by
      unfold natOfDigits
      rw [List.foldl_append]
      rfl
    rw [hsplit, List.length_append, List.length_singleton, Nat.pow_succ]
    omega

namespace Digits

def value (d : Digits) : ℚ := natOfDigits d.digits * 10 ^ (d.point - d.digits.length)

/-- Digits that can be written: there are some, and six places have room for their number. -/
structure Writable (d : Digits) : Prop where
  ne_nil : d.digits ≠ []
  isDigit : ∀ c ∈ d.digits, c.isDigit = true
  small : natOfDigits d.digits < 10 ^ 6

lemma exists_toDigits (hn : n ≠ 0) (scale : Int) : ∃ zeros,
    Nat.toDigits 10 n = (ofNat n scale).digits ++ List.replicate zeros '0' ∧
      (ofNat n scale).point = (Nat.toDigits 10 n).length + scale := by
  have hofNat : ofNat n scale =
      ⟨(Nat.toDigits 10 n).rdropWhile (· == '0'), (Nat.toDigits 10 n).length + scale⟩ := if_neg hn
  have hzeros : (Nat.toDigits 10 n).rtakeWhile (· == '0') =
      List.replicate ((Nat.toDigits 10 n).rtakeWhile (· == '0')).length '0' := by
    rw [List.eq_replicate_iff]
    refine ⟨rfl, fun c hc => ?_⟩
    have hzero := List.mem_rtakeWhile_imp hc
    exact eq_of_beq hzero
  rw [hofNat]
  refine ⟨((Nat.toDigits 10 n).rtakeWhile (· == '0')).length, ?_, rfl⟩
  rw [← hzeros]
  exact List.rdropWhile_append_rtakeWhile.symm

lemma value_ofNat (hn : n ≠ 0) (scale : Int) : (ofNat n scale).value = n * 10 ^ scale := by
  obtain ⟨zeros, hdigits, hpoint⟩ := exists_toDigits hn scale
  have hvalue := congrArg natOfDigits hdigits
  have hlength := congrArg List.length hdigits
  rw [natOfDigits_toDigits, natOfDigits_append_zeros] at hvalue
  rw [List.length_append, List.length_replicate] at hlength
  have hplace : (ofNat n scale).point - (ofNat n scale).digits.length = zeros + scale := by
    rw [hpoint, hlength, Nat.cast_add]
    omega
  rw [value, hplace, zpow_add₀ (by norm_num), zpow_natCast, ← mul_assoc]
  congr 1
  exact_mod_cast hvalue.symm

lemma writable_ofNat (hn : n ≠ 0) (hle : n ≤ 10 ^ 6) (scale : Int) : (ofNat n scale).Writable := by
  obtain ⟨zeros, hdigits, -⟩ := exists_toDigits hn scale
  have hvalue := congrArg natOfDigits hdigits
  rw [natOfDigits_toDigits, natOfDigits_append_zeros] at hvalue
  refine ⟨?_, ?_, ?_⟩
  · intro hnil
    rw [hnil] at hvalue
    rw [show natOfDigits [] = 0 from rfl, Nat.zero_mul] at hvalue
    exact hn hvalue
  · intro c hc
    refine Text.isDigit_of_mem_toDigits n c ?_
    rw [hdigits]
    exact List.mem_append_left _ hc
  · rcases Nat.lt_or_eq_of_le hle with hlt | rfl
    · refine Nat.lt_of_le_of_lt ?_ hlt
      calc natOfDigits (ofNat n scale).digits
          ≤ natOfDigits (ofNat n scale).digits * 10 ^ zeros :=
          Nat.le_mul_of_pos_right _ (Nat.pow_pos Nat.succ_pos')
        _ = n := hvalue.symm
    · change natOfDigits ['1'] < 10 ^ 6
      decide

end Digits

/-! ### Six digits read back -/

lemma twoDigits_spec (n : Nat) : twoDigits n ≠ [] ∧ (∀ c ∈ twoDigits n, c.isDigit = true) ∧
    natOfDigits (twoDigits n) = n := by
  have hdigit := Text.isDigit_of_mem_toDigits n
  unfold twoDigits
  dsimp only
  split
  · refine ⟨List.cons_ne_nil _ _, ?_, ?_⟩
    · intro c hc
      rcases List.mem_cons.mp hc with rfl | h
      · rfl
      · exact hdigit c h
    · exact (natOfDigits_zeros_append 1 _).trans (natOfDigits_toDigits n)
  · exact ⟨Nat.toDigits_ne_nil, hdigit, natOfDigits_toDigits n⟩

namespace Layout

open Scientific

lemma read?_inFull {d : Digits} (h : d.Writable) (hmost : d.point ≤ 6) : ∃ c e,
    read? (tabular.inFull d) = some ⟨false, c, e⟩ ∧ c < 10 ^ 6 ∧ (c : ℚ) * 10 ^ e = d.value := by
  unfold inFull
  dsimp only
  split
  · rename_i hbehind
    refine ⟨_, _, read?_behind _ h.isDigit, h.small, ?_⟩
    rw [Digits.value]
    congr 2
    omega
  · split
    · rename_i hwhole
      -- The zeros that fill the gap are digits of the number too.
      have hdigit : ∀ c ∈ d.digits ++ List.replicate (d.point.toNat - d.digits.length) '0',
          c.isDigit = true := by
        intro c hc
        rcases List.mem_append.mp hc with hmem | hmem
        · exact h.isDigit c hmem
        · exact isDigit_of_mem_replicate _ c hmem
      have hsmall := natOfDigits_lt hdigit
      rw [List.length_append, List.length_replicate, Nat.add_sub_cancel' hwhole] at hsmall
      rw [if_neg (by decide), List.append_nil]
      refine ⟨_, _, read?_digits (List.append_ne_nil_of_left_ne_nil h.ne_nil _) hdigit, ?_, ?_⟩
      · exact Nat.lt_of_lt_of_le hsmall (Nat.pow_le_pow_right (by decide) (by omega))
      · rw [natOfDigits_append_zeros, Digits.value, Nat.cast_mul, Nat.cast_pow, Nat.cast_ofNat,
          zpow_zero, mul_one, ← zpow_natCast]
        congr 2
        omega
    · rename_i hpoint
      refine ⟨_, _, read?_split h.isDigit (by omega) (Nat.not_le.mp hpoint), h.small, ?_⟩
      rw [Digits.value]
      congr 2
      omega

lemma read?_withExponent {d : Digits} (h : d.Writable) : ∃ e,
    read? (withExponent d) = some ⟨false, natOfDigits d.digits, e⟩ ∧
      (natOfDigits d.digits : ℚ) * 10 ^ e = d.value := by
  obtain ⟨hne, hdigit, hvalue⟩ := twoDigits_spec (d.point - 1).natAbs
  have hread := read?_lead h.ne_nil h.isDigit hne hdigit hvalue
  unfold withExponent
  dsimp only
  rw [List.append_assoc]
  refine ⟨_, hread, ?_⟩
  rw [Digits.value]
  congr 2
  omega

lemma read?_write {d : Digits} (h : d.Writable) : ∃ c e,
    read? (tabular.write false d).toList = some ⟨false, c, e⟩ ∧ c < 10 ^ 6 ∧
      (c : ℚ) * 10 ^ e = d.value := by
  unfold write
  dsimp only
  rw [if_neg Bool.false_ne_true, String.toList_ofList]
  split
  · rename_i hfull
    rw [Bool.and_eq_true, decide_eq_true_eq, decide_eq_true_eq] at hfull
    exact read?_inFull h hfull.2
  · obtain ⟨e, hread, hsame⟩ := read?_withExponent h
    exact ⟨_, e, hread, h.small, hsame⟩

end Layout

/-! ### Six digits of a number -/

lemma le_of_lt_units {m n : Nat} (place : Int)
    (h : (m : ℚ) * 10 ^ place < (n + 1) * 10 ^ place) : m ≤ n := by
  have hunit : (0 : ℚ) < 10 ^ place := by positivity
  have hlt : (m : ℚ) < n + 1 := lt_of_mul_lt_mul_right h hunit.le
  have hlt : m < n + 1 := by exact_mod_cast hlt
  exact Nat.le_of_lt_succ hlt

/-- The number has so many significant digits at most. -/
def OfDigits (p : Nat) (v : ℚ) : Prop := ∃ (c : Nat) (e : Int), c < 10 ^ p ∧ v = c * 10 ^ e

/-- So many units of the place are nearest to the number, whose sixth digit stands at the place. -/
structure RoundedAt (q : Nat) (place : Int) (y : ℚ) : Prop where
  low : (10 : ℚ) ^ place * 10 ^ 5 ≤ y
  high : y < 10 ^ place * 10 ^ 6
  near : |(q : ℚ) * 10 ^ place - y| ≤ 10 ^ place / 2

namespace RoundedAt

variable {q : Nat} {place : Int} {x y : ℚ}

lemma ne_zero (h : RoundedAt q place y) : q ≠ 0 := by
  rintro rfl
  have hunit : (0 : ℚ) < 10 ^ place := by positivity
  have hnear := (abs_le.mp h.near).1
  rw [Nat.cast_zero, zero_mul] at hnear
  linarith [h.low]

lemma le (h : RoundedAt q place y) : q ≤ 10 ^ 6 := by
  have hunit : (0 : ℚ) < 10 ^ place := by positivity
  have hnear := (abs_le.mp h.near).2
  apply le_of_lt_units place
  push_cast
  linarith [h.high]

/-- What is rounded is near the numbers that the number itself is very near to. -/
lemma abs_sub_le (h : RoundedAt q place y) (hnear : |y - x| ≤ x / 10 ^ 15) :
    |(q : ℚ) * 10 ^ place - x| ≤ x / 10 ^ 5 := by
  have hlow := h.low
  have hround := abs_le.mp h.near
  rw [abs_le] at hnear ⊢
  constructor
  · linarith
  · linarith

lemma place_le {c : Nat} {e : Int} (h : RoundedAt q place y) (hc : c < 10 ^ 6)
    (hnear : |y - c * 10 ^ e| ≤ c * 10 ^ e / 10 ^ 15) : place ≤ e := by
  have hunit : (0 : ℚ) < 10 ^ place := by positivity
  have hlow := h.low
  rw [abs_le] at hnear
  by_contra hless
  have hc : (c : ℚ) ≤ 10 ^ 6 - 1 := by
    have hsucc : c + 1 ≤ 10 ^ 6 := hc
    have hsucc : (c : ℚ) + 1 ≤ 10 ^ 6 := by exact_mod_cast hsucc
    linarith
  have hsize : (10 : ℚ) ^ e ≤ 10 ^ place / 10 := by
    rw [div_eq_mul_inv, ← zpow_sub_one₀ (by norm_num)]
    exact zpow_le_zpow_right₀ (by norm_num) (by omega)
  have hx : (c : ℚ) * 10 ^ e ≤ (10 ^ 6 - 1) * (10 ^ place / 10) :=
    mul_le_mul hc hsize (by positivity) (by norm_num)
  linarith

lemma eq_of_near (h : RoundedAt q place y) (hx : OfDigits 6 x) (hnear : |y - x| ≤ x / 10 ^ 15) :
    (q : ℚ) * 10 ^ place = x := by
  obtain ⟨c, e, hc, rfl⟩ := hx
  obtain ⟨j, hj⟩ := Int.le.dest (h.place_le hc hnear)
  have hmultiple : (c : ℚ) * 10 ^ e = (c * 10 ^ j : Nat) * 10 ^ place := by
    rw [zpow_eq_mul_pow (by norm_num) hj.symm]
    push_cast
    ring
  rw [hmultiple] at hnear ⊢
  generalize c * 10 ^ j = n at *
  have hunit : (0 : ℚ) < 10 ^ place := by positivity
  have hhigh := h.high
  have hround := abs_le.mp h.near
  rw [abs_le] at hnear
  have hmost : q ≤ n := le_of_lt_units place (by linarith)
  have hleast : n ≤ q := le_of_lt_units place (by linarith)
  rw [Nat.le_antisymm hmost hleast]

end RoundedAt

lemma exists_rounded (hden : 0 < den) (hleast : (10 : ℚ) ^ (-400 : Int) ≤ num / den) :
    ∃ q place, rounded 6 num den = Digits.ofNat q place ∧ RoundedAt q place (num / den) := by
  obtain ⟨hlow, hhigh⟩ := leadingPlace_spec hden hleast
  have hnum : num ≠ 0 := by
    rintro rfl
    rw [Nat.cast_zero, zero_div] at hleast
    exact absurd hleast (not_le.mpr (by positivity))
  have hround := abs_roundQuotient_inSteps_sub_le (by decide : 0 < 10) hden num (leadingPlace num den - 6)
  rw [Nat.cast_ofNat] at hround
  refine ⟨_, leadingPlace num den - 6, if_neg hnum, ?_, ?_, hround⟩
  · rwa [← zpow_eq_mul_pow (by norm_num) (by omega : leadingPlace num den - 1 = _)]
  · rwa [← zpow_eq_mul_pow (by norm_num) (by omega : leadingPlace num den = _)]

lemma exists_read?_general {m : Nat} {e : Int} (hleast : (10 : ℚ) ^ (-400 : Int) ≤ m * 2 ^ e) :
    ∃ (c : Nat) (s : Int) (q : Nat) (place : Int),
      Scientific.read? (Parts.finite false m e).general.toList = some ⟨false, c, s⟩ ∧ c < 10 ^ 6 ∧
        (c : ℚ) * 10 ^ s = q * 10 ^ place ∧ RoundedAt q place (m * 2 ^ e) := by
  have hden := quotientOf_pos (by decide : 0 < 2) m e
  have hvalue := div_quotientOf (by decide : 0 < 2) m e
  rw [Nat.cast_ofNat] at hvalue
  rw [← hvalue] at hleast ⊢
  obtain ⟨q, place, hrounded, hat⟩ := exists_rounded hden hleast
  obtain ⟨c, s, hread, hc, hsame⟩ := Layout.read?_write (Digits.writable_ofNat hat.ne_zero hat.le place)
  rw [Digits.value_ofNat hat.ne_zero] at hsame
  refine ⟨c, s, q, place, ?_, hc, hsame, hat⟩
  unfold Parts.general
  dsimp only
  rw [hrounded]
  exact hread

/-- The nearest binary number of a decimal number of moderate size. -/
lemma exists_nearest {x : Scientific} (hpos : x.negative = false)
    (hleast : (10 : ℚ) ^ (-50 : Int) ≤ x.value) (hmost : x.value ≤ 10 ^ (50 : Int)) :
    ∃ m e, x.nearest = .finite false m e ∧ |(m : ℚ) * 2 ^ e - x.value| ≤ x.value / 10 ^ 15 := by
  have hvalue : ((quotientOf 10 x.digits x.exponent).1 : ℚ) / (quotientOf 10 x.digits x.exponent).2 =
      x.value := by
    have hquotient := div_quotientOf (by decide : 0 < 10) x.digits x.exponent
    rw [hquotient, Scientific.value, hpos, if_neg Bool.false_ne_true, one_mul, Nat.cast_ofNat]
  have hnear := nearest_spec x.negative (quotientOf 10 x.digits x.exponent).1
    (quotientOf_pos (by decide : 0 < 10) x.digits x.exponent)
  rw [hvalue, hpos] at hnear
  have htwo : (1 : ℚ) ≤ 2 := by norm_num
  have hleast' : (2 : ℚ) ^ (-1022 : Int) ≤ x.value :=
    le_trans (zpow_le_zpow_right₀ htwo (by decide : (-1022 : Int) ≤ -200))
      (le_trans (by norm_num) hleast)
  have hmost' : x.value < 2 ^ (1023 : Int) :=
    lt_of_le_of_lt hmost (lt_of_lt_of_le (by norm_num)
      (zpow_le_zpow_right₀ htwo (by decide : (200 : Int) ≤ 1023)))
  obtain ⟨m, e, hnearest, herror⟩ := hnear hleast' hmost'
  have hx : 0 < x.value := lt_of_lt_of_le (by positivity) hleast
  refine ⟨m, e, ?_, le_trans herror ?_⟩
  · unfold Scientific.nearest
    dsimp only
    rw [hpos, hnearest]
  · gcongr
    norm_num

/-- A decimal number that is stored as the nearest binary number and written with six digits reads back as
a number of six digits near it, and as itself if that is what it is. -/
theorem exists_read?_nearest {x : Scientific} (hpos : x.negative = false)
    (hleast : (10 : ℚ) ^ (-50 : Int) ≤ x.value) (hmost : x.value ≤ 10 ^ (50 : Int)) :
    ∃ c s, Scientific.read? x.nearest.general.toList = some ⟨false, c, s⟩ ∧ c < 10 ^ 6 ∧
      |(c : ℚ) * 10 ^ s - x.value| ≤ x.value / 10 ^ 5 ∧
      ((c : ℚ) * 10 ^ s = x.value ↔ OfDigits 6 x.value) := by
  obtain ⟨m, e, hnearest, hnear⟩ := exists_nearest hpos hleast hmost
  have hfuel : (10 : ℚ) ^ (-400 : Int) ≤ m * 2 ^ e := by
    have hbound := (abs_le.mp hnear).1
    calc (10 : ℚ) ^ (-400 : Int) ≤ 10 ^ (-51 : Int) := zpow_le_zpow_right₀ (by norm_num) (by decide)
      _ ≤ 10 ^ (-50 : Int) / 2 := by norm_num
      _ ≤ x.value / 2 := by gcongr
      _ ≤ m * 2 ^ e := by linarith [le_trans (by positivity) hleast]
  obtain ⟨c, s, q, place, hread, hc, hsame, hat⟩ := exists_read?_general hfuel
  rw [hnearest]
  refine ⟨c, s, hread, hc, hsame ▸ hat.abs_sub_le hnear, ?_, ?_⟩
  · intro heq
    exact ⟨c, s, hc, heq.symm⟩
  · intro hdigits
    rw [hsame]
    exact hat.eq_of_near hdigits hnear

end TickWalk.Decimal
