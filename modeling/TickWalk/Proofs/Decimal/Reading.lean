import TickWalk.Decimal.Reading
import TickWalk.Decimal.Scaled
import TickWalk.Proofs.Text.Integer
import Mathlib.Algebra.Order.Ring.Int

/-!
# Written decimal numbers read back

A row of digits with a point in it, or without, and perhaps an exponent behind it is read as its digits
and the place of the last of them. A number that is written with so many digits reads back as that number
with so many digits.
-/

namespace TickWalk.Decimal

variable {whole fraction tail ds : List Char}

/-! ### Rows of digits -/

lemma natOfDigits_eq (ds : List Char) : natOfDigits ds = Nat.ofDigitChars 10 ds 0 :=
  Nat.ofDigitChars_eq_foldl.symm

lemma natOfDigits_toDigits (n : Nat) : natOfDigits (Nat.toDigits 10 n) = n := by
  rw [natOfDigits_eq]
  exact Nat.ofDigitChars_toDigits (by decide) (by decide)

lemma natOfDigits_zeros_append (k : Nat) (ds : List Char) :
    natOfDigits (List.replicate k '0' ++ ds) = natOfDigits ds := by
  rw [natOfDigits_eq, natOfDigits_eq, Nat.ofDigitChars_append, Nat.ofDigitChars_replicate_zero, Nat.mul_zero]

lemma natOfDigits_append_zeros (ds : List Char) (k : Nat) :
    natOfDigits (ds ++ List.replicate k '0') = natOfDigits ds * 10 ^ k := by
  rw [natOfDigits_eq, natOfDigits_eq, Nat.ofDigitChars_append, Nat.ofDigitChars_replicate_zero, Nat.mul_comm]

lemma isDigit_of_mem_replicate (k : Nat) : ∀ c ∈ List.replicate k '0', c.isDigit = true := by
  intro c hc
  rw [List.eq_of_mem_replicate hc]
  rfl

namespace Scientific

def Ends (tail : List Char) : Prop := ∀ c ∈ tail.head?, c.isDigit = false

lemma takeWhile_digits (h : ∀ c ∈ ds, c.isDigit = true) (htail : Ends tail) :
    (ds ++ tail).takeWhile Char.isDigit = ds ∧ (ds ++ tail).dropWhile Char.isDigit = tail := by
  rw [List.takeWhile_append_of_pos h, List.dropWhile_append_of_pos h]
  cases tail with
  | nil => exact ⟨List.append_nil _, rfl⟩
  | cons c rest =>
    have hc : ¬ c.isDigit = true := Bool.eq_false_iff.mp (htail c rfl)
    rw [List.takeWhile_cons_of_neg hc, List.dropWhile_cons_of_neg hc, List.append_nil]
    exact ⟨rfl, rfl⟩

/-! ### Numbers -/

lemma splitSign_of_isDigit (hne : whole ≠ []) (h : ∀ c ∈ whole, c.isDigit = true) (tail : List Char) :
    splitSign (whole ++ tail) = (false, whole ++ tail) := by
  obtain ⟨c, rest, rfl⟩ := List.exists_cons_of_ne_nil hne
  have hc := h c List.mem_cons_self
  rw [List.cons_append]
  unfold splitSign
  split
  · rename_i heq
    obtain ⟨rfl, -⟩ := List.cons.inj heq
    exact absurd hc (by decide)
  · rename_i heq
    obtain ⟨rfl, -⟩ := List.cons.inj heq
    exact absurd hc (by decide)
  · rfl

lemma read?_of_point (hne : whole ≠ []) (hwhole : ∀ c ∈ whole, c.isDigit = true)
    (hfraction : ∀ c ∈ fraction, c.isDigit = true) (htail : Ends tail) :
    read? (whole ++ '.' :: (fraction ++ tail)) = (exponent? tail).map fun e =>
      ⟨false, natOfDigits (whole ++ fraction), e - fraction.length⟩ := by
  have hpoint : Ends ('.' :: (fraction ++ tail)) := by
    intro c hc
    obtain rfl := Option.some.inj hc
    rfl
  obtain ⟨htake, hdrop⟩ := takeWhile_digits hwhole hpoint
  obtain ⟨htake', hdrop'⟩ := takeWhile_digits hfraction htail
  have hsome : (whole.isEmpty && fraction.isEmpty) = false := by
    rw [List.isEmpty_eq_false_iff.mpr hne, Bool.false_and]
  unfold read?
  rw [splitSign_of_isDigit hne hwhole]
  dsimp only
  rw [htake, hdrop]
  simp only [htake', hdrop', hsome, Bool.false_eq_true, if_false]

lemma read?_of_no_point (hne : whole ≠ []) (hwhole : ∀ c ∈ whole, c.isDigit = true) (htail : Ends tail)
    (hpoint : tail.head? ≠ some '.') :
    read? (whole ++ tail) = (exponent? tail).map fun e => ⟨false, natOfDigits whole, e⟩ := by
  obtain ⟨htake, hdrop⟩ := takeWhile_digits hwhole htail
  have hsome : (whole.isEmpty && ([] : List Char).isEmpty) = false := by
    rw [List.isEmpty_eq_false_iff.mpr hne, Bool.false_and]
  unfold read?
  rw [splitSign_of_isDigit hne hwhole]
  dsimp only
  rw [htake, hdrop]
  split
  · exact absurd rfl hpoint
  · simp only [hsome, Bool.false_eq_true, if_false, List.append_nil, List.length_nil, Int.ofNat_zero,
      Int.sub_zero]

lemma exponent?_nil : exponent? [] = some 0 := rfl

lemma exponent?_signed {i : Int} (hne : ds ≠ []) (hds : ∀ c ∈ ds, c.isDigit = true)
    (hvalue : natOfDigits ds = i.natAbs) :
    exponent? ('e' :: (if i < 0 then '-' else '+') :: ds) = some i := by
  have hempty : ds.isEmpty = false := List.isEmpty_eq_false_iff.mpr hne
  have hall : ds.all Char.isDigit = true := List.all_eq_true.mpr hds
  rcases lt_or_ge i 0 with h | h
  · rw [if_pos h]
    simp only [exponent?, splitSign, hempty, hall, hvalue, beq_self_eq_true, Bool.true_or, Bool.not_false,
      Bool.and_self, if_true, Int.ofNat_natAbs_of_nonpos h.le, neg_neg]
  · rw [if_neg (Int.not_lt.mpr h)]
    simp only [exponent?, splitSign, hempty, hall, hvalue, beq_self_eq_true, Bool.true_or, Bool.not_false,
      Bool.and_self, if_true, Bool.false_eq_true, if_false, Int.natAbs_of_nonneg h]

lemma ends_nil : Ends [] := by
  intro c hc
  cases hc

lemma ends_exponent (rest : List Char) : Ends ('e' :: rest) := by
  intro c hc
  obtain rfl := Option.some.inj hc
  rfl

/-! ### The ways to write a number -/

lemma read?_digits (hne : ds ≠ []) (hds : ∀ c ∈ ds, c.isDigit = true) :
    read? ds = some ⟨false, natOfDigits ds, 0⟩ := by
  have hread := read?_of_no_point hne hds ends_nil (by decide)
  rwa [List.append_nil] at hread

lemma read?_split {k : Nat} (hds : ∀ c ∈ ds, c.isDigit = true) (hk : 0 < k) (hlen : k < ds.length) :
    read? (ds.take k ++ '.' :: ds.drop k) = some ⟨false, natOfDigits ds, (k : Int) - ds.length⟩ := by
  have hne : ds.take k ≠ [] := by
    rw [Ne, List.take_eq_nil_iff, not_or]
    exact ⟨hk.ne', List.ne_nil_of_length_pos (Nat.lt_of_le_of_lt (Nat.zero_le k) hlen)⟩
  have hread := read?_of_point hne (fun c hc => hds c (List.mem_of_mem_take hc))
    (fun c hc => hds c (List.mem_of_mem_drop (hc : c ∈ ds.drop k))) ends_nil
  rw [List.append_nil, List.take_append_drop, List.length_drop] at hread
  rw [hread, exponent?_nil, Option.map_some]
  congr 2
  omega

lemma read?_behind (k : Nat) (hds : ∀ c ∈ ds, c.isDigit = true) :
    read? ('0' :: '.' :: List.replicate k '0' ++ ds) =
      some ⟨false, natOfDigits ds, -((k + ds.length : Nat) : Int)⟩ := by
  have hzero : ∀ c ∈ ['0'], c.isDigit = true := isDigit_of_mem_replicate 1
  have hfraction : ∀ c ∈ List.replicate k '0' ++ ds, c.isDigit = true := by
    intro c hc
    rcases List.mem_append.mp hc with h | h
    · exact isDigit_of_mem_replicate k c h
    · exact hds c h
  have hread := read?_of_point (List.cons_ne_nil '0' []) hzero hfraction ends_nil
  have hdigits : natOfDigits (['0'] ++ (List.replicate k '0' ++ ds)) = natOfDigits ds := by
    rw [← List.append_assoc]
    exact natOfDigits_zeros_append (k + 1) ds
  rw [List.append_nil, hdigits, List.length_append, List.length_replicate] at hread
  rw [show '0' :: '.' :: List.replicate k '0' ++ ds = ['0'] ++ '.' :: (List.replicate k '0' ++ ds) from rfl,
    hread, exponent?_nil, Option.map_some, Int.zero_sub]

lemma read?_lead {i : Int} {es : List Char} (hne : ds ≠ []) (hds : ∀ c ∈ ds, c.isDigit = true)
    (hes : es ≠ []) (hdigits : ∀ c ∈ es, c.isDigit = true) (hvalue : natOfDigits es = i.natAbs) :
    read? (ds.take 1 ++ (if ds.length ≤ 1 then [] else '.' :: ds.drop 1) ++
      'e' :: (if i < 0 then '-' else '+') :: es) =
        some ⟨false, natOfDigits ds, i + 1 - ds.length⟩ := by
  have hexponent := exponent?_signed hes hdigits hvalue
  have hlength : 0 < ds.length := List.length_pos_iff.mpr hne
  rcases Nat.lt_or_ge 1 ds.length with h | h
  · have hlead : ds.take 1 ≠ [] := by
      rw [Ne, List.take_eq_nil_iff, not_or]
      exact ⟨by decide, hne⟩
    rw [if_neg (Nat.not_le.mpr h), List.append_assoc, List.cons_append,
      read?_of_point hlead (fun c hc => hds c (List.mem_of_mem_take hc))
        (fun c hc => hds c (List.mem_of_mem_drop hc)) (ends_exponent _),
      List.take_append_drop, hexponent, List.length_drop, Option.map_some]
    congr 2
    omega
  · have hmark : ('e' :: (if i < 0 then '-' else '+') :: es).head? ≠ some '.' := by
      rw [List.head?_cons]
      decide
    rw [if_pos h, List.append_nil, List.take_of_length_le h,
      read?_of_no_point hne hds (ends_exponent _) hmark, hexponent, Option.map_some]
    congr 2
    omega

/-! ### What is read as a number -/

/-- A character that stands in numbers. -/
def Numeral (c : Char) : Prop := c.isDigit = true ∨ c ∈ ['+', '-', '.', 'e', 'E']

lemma numeral_of_mem_splitSign {s : List Char} (h : ∀ c ∈ (splitSign s).2, Numeral c) :
    ∀ c ∈ s, Numeral c := by
  intro c hc
  unfold splitSign at h
  split at h
  · rcases List.mem_cons.mp hc with rfl | hc
    · exact .inr (by decide)
    · exact h c hc
  · rcases List.mem_cons.mp hc with rfl | hc
    · exact .inr (by decide)
    · exact h c hc
  · exact h c hc

lemma numeral_of_exponent? {s : List Char} {i : Int} (h : exponent? s = some i) :
    ∀ c ∈ s, Numeral c := by
  cases s with
  | nil => exact List.forall_mem_nil _
  | cons mark rest =>
    simp only [exponent?] at h
    split at h
    · rename_i hsome
      simp only [Bool.and_eq_true, Bool.or_eq_true, beq_iff_eq, List.all_eq_true] at hsome
      obtain ⟨⟨hmark, -⟩, hdigits⟩ := hsome
      refine List.forall_mem_cons.mpr ⟨?_, numeral_of_mem_splitSign fun c hc => .inl (hdigits c hc)⟩
      rcases hmark with rfl | rfl
      · exact .inr (by decide)
      · exact .inr (by decide)
    · cases h

lemma numeral_of_read? {s : List Char} {x : Scientific} (h : read? s = some x) :
    ∀ c ∈ s, Numeral c := by
  apply numeral_of_mem_splitSign
  have hdigits (t : List Char) : ∀ c ∈ t.takeWhile Char.isDigit, Numeral c :=
    fun c hc => .inl (List.mem_takeWhile_imp hc)
  unfold read? at h
  generalize splitSign s = parts at h
  obtain ⟨negative, body⟩ := parts
  dsimp only at h ⊢
  rw [← List.takeWhile_append_dropWhile (p := Char.isDigit) (l := body)]
  intro c hc
  rcases List.mem_append.mp hc with hc | hc
  · exact hdigits body c hc
  · generalize body.dropWhile Char.isDigit = after at h hc
    split at h
    · rename_i more
      split at h
      · cases h
      · obtain ⟨e, he, -⟩ := Option.map_eq_some_iff.mp h
        rcases List.mem_cons.mp hc with rfl | hc
        · exact .inr (by decide)
        · rw [← List.takeWhile_append_dropWhile (p := Char.isDigit) (l := more)] at hc
          rcases List.mem_append.mp hc with hc | hc
          · exact hdigits more c hc
          · exact numeral_of_exponent? he c hc
    · split at h
      · cases h
      · obtain ⟨e, he, -⟩ := Option.map_eq_some_iff.mp h
        exact numeral_of_exponent? he c hc

end Scientific

namespace Scaled

open Scientific

lemma read?_withExponent (y : Scaled) :
    read? y.withExponent = some ⟨false, y.coefficient, y.exponent⟩ := by
  have hread := read?_lead (i := y.adjusted) Nat.toDigits_ne_nil (Text.isDigit_of_mem_toDigits y.coefficient)
    Nat.toDigits_ne_nil (Text.isDigit_of_mem_toDigits _) (natOfDigits_toDigits _)
  rw [natOfDigits_toDigits] at hread
  unfold withExponent
  dsimp only
  rw [hread]
  congr 2
  unfold adjusted digitCount
  omega

lemma read?_inFull {y : Scaled} (h : y.exponent ≤ 0) :
    read? y.inFull = some ⟨false, y.coefficient, y.exponent⟩ := by
  have hdigit := Text.isDigit_of_mem_toDigits y.coefficient
  unfold inFull
  dsimp only
  split
  · rw [read?_digits Nat.toDigits_ne_nil hdigit, natOfDigits_toDigits]
    congr 2
    omega
  · split
    · rw [read?_split hdigit (by omega) (by omega), natOfDigits_toDigits]
      congr 2
      omega
    · rw [read?_behind _ hdigit, natOfDigits_toDigits]
      congr 2
      omega

/-- What is written with a limited number of digits reads back as the number rounded to them. -/
theorem read?_general (p : Nat) (x : Scaled) :
    read? (x.general p).toList = some ⟨false, (x.roundTo p).coefficient, (x.roundTo p).exponent⟩ := by
  unfold general
  dsimp only
  rw [String.toList_ofList]
  split
  · exact read?_withExponent _
  · rename_i hsize
    rw [Bool.or_eq_true, decide_eq_true_eq, not_or, Int.not_lt] at hsize
    exact read?_inFull hsize.1

end Scaled

end TickWalk.Decimal
