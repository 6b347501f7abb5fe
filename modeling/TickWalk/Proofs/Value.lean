import TickWalk.Value.Bounds
import TickWalk.Value.Integer
import Mathlib.Tactic.Linarith

/-!
# Loose numbers between whole ones

A loose number that lies in a domain is still in it when its fraction is dropped, since the bounds
are whole. Whole numbers are the same value when they are the same number.
-/

namespace TickWalk

namespace Decimal.Parts

def signed (negative : Bool) (n : Nat) : Int := if negative then -n else n

lemma signed_natAbs (i : Int) : signed (i < 0) i.natAbs = i := by
  unfold signed
  by_cases h : i < 0
  · simp only [h, decide_true, if_true]
    omega
  · simp only [h, decide_false, Bool.false_eq_true, if_false]
    omega

lemma signed_mul (negative : Bool) (m k : Nat) :
    signed negative (m * k) = signed negative m * k := by
  cases negative <;> simp [signed]

lemma scaledTo_eq (base : Int) (negative : Bool) (m : Nat) (e : Int) :
    scaledTo base negative m e = signed negative m * 2 ^ (e - base).toNat := by
  rw [scaledTo]
  change signed negative (m * 2 ^ (e - base).toNat) = _
  rw [signed_mul]
  push_cast
  rfl

lemma le_signed_div {lo : Int} {negative : Bool} {m k : Nat} (hk : 0 < k)
    (h : lo * k ≤ signed negative m) : lo ≤ signed negative (m / k) := by
  have hk' : (0 : Int) < k := by exact_mod_cast hk
  cases negative with
  | false =>
    simp only [signed, Bool.false_eq_true, if_false] at h ⊢
    rw [Int.natCast_ediv]
    exact (Int.le_ediv_iff_mul_le hk').mpr h
  | true =>
    simp only [signed, if_true] at h ⊢
    have hdiv : ((m / k : Nat) : Int) ≤ -lo := by
      rw [Int.natCast_ediv]
      apply Int.ediv_le_of_le_mul hk'
      linarith
    omega

lemma signed_div_le {hi : Int} {negative : Bool} {m k : Nat} (hk : 0 < k)
    (h : signed negative m ≤ hi * k) : signed negative (m / k) ≤ hi := by
  have hneg : -hi * k ≤ signed (!negative) m := by
    cases negative <;> simp only [signed, Bool.not_true, Bool.not_false, Bool.false_eq_true,
      if_true, if_false] at h ⊢ <;> linarith
  have hle := le_signed_div hk hneg
  cases negative <;> simp only [signed, Bool.not_true, Bool.not_false, Bool.false_eq_true,
    if_true, if_false] at hle ⊢ <;> omega

lemma truncate?_finite (negative : Bool) (m : Nat) (e : Int) :
    (finite negative m e).truncate? =
      some (signed negative (if 0 ≤ e then m * 2 ^ e.toNat else m / 2 ^ (-e).toNat)) := rfl

lemma compare?_ofInt_finite (i : Int) (negative : Bool) (m : Nat) (e : Int) :
    (ofInt i).compare? (finite negative m e) =
      some (compare (i * 2 ^ (-e).toNat) (signed negative m * 2 ^ e.toNat)) := by
  simp only [ofInt, compare?, scaledTo_eq, signed_natAbs, Option.some.injEq]
  by_cases h : 0 ≤ e
  · rw [min_eq_left h]
    have hz : (-e).toNat = 0 := by omega
    simp [hz]
  · rw [min_eq_right (by omega)]
    have hz : e.toNat = 0 := by omega
    simp [hz]

lemma compare?_finite_ofInt (negative : Bool) (m : Nat) (e i : Int) :
    (finite negative m e).compare? (ofInt i) =
      some (compare (signed negative m * 2 ^ e.toNat) (i * 2 ^ (-e).toNat)) := by
  simp only [ofInt, compare?, scaledTo_eq, signed_natAbs, Option.some.injEq]
  by_cases h : 0 ≤ e
  · rw [min_eq_right h]
    have hz : (-e).toNat = 0 := by omega
    simp [hz]
  · rw [min_eq_left (by omega)]
    have hz : e.toNat = 0 := by omega
    simp [hz]

lemma compare?_ofInt (i j : Int) : (ofInt i).compare? (ofInt j) = some (compare i j) := by
  change (ofInt i).compare? (finite (j < 0) j.natAbs 0) = _
  rw [compare?_ofInt_finite, signed_natAbs]
  simp

lemma truncate?_ofInt (i : Int) : (ofInt i).truncate? = some i := by
  rw [ofInt, truncate?_finite, if_pos le_rfl]
  simp [signed_natAbs]

/-- Dropping the fraction of a number keeps it at or above every whole number it is not below. -/
lemma le_truncate? {p : Parts} {lo t : Int} {o : Ordering} (h : (ofInt lo).compare? p = some o)
    (ho : o ≠ .gt) (ht : p.truncate? = some t) : lo ≤ t := by
  cases p with
  | nan => simp [truncate?] at ht
  | infinite negative => simp [truncate?] at ht
  | finite negative m e =>
    rw [compare?_ofInt_finite, Option.some.injEq] at h
    have hle : lo * 2 ^ (-e).toNat ≤ signed negative m * 2 ^ e.toNat := by
      rw [← h] at ho
      exact not_lt.mp (mt compare_gt_iff_gt.mpr ho)
    rw [truncate?_finite, Option.some.injEq] at ht
    rw [← ht]
    by_cases he : 0 ≤ e
    · have hz : (-e).toNat = 0 := by omega
      rw [if_pos he, signed_mul]
      simpa [hz] using hle
    · have hz : e.toNat = 0 := by omega
      rw [if_neg he]
      exact le_signed_div (Nat.two_pow_pos _) (by simpa [hz] using hle)

lemma truncate?_le {p : Parts} {hi t : Int} {o : Ordering} (h : p.compare? (ofInt hi) = some o)
    (ho : o ≠ .gt) (ht : p.truncate? = some t) : t ≤ hi := by
  cases p with
  | nan => simp [truncate?] at ht
  | infinite negative => simp [truncate?] at ht
  | finite negative m e =>
    rw [compare?_finite_ofInt, Option.some.injEq] at h
    have hle : signed negative m * 2 ^ e.toNat ≤ hi * 2 ^ (-e).toNat := by
      rw [← h] at ho
      exact not_lt.mp (mt compare_gt_iff_gt.mpr ho)
    rw [truncate?_finite, Option.some.injEq] at ht
    rw [← ht]
    by_cases he : 0 ≤ e
    · have hz : (-e).toNat = 0 := by omega
      rw [if_pos he, signed_mul]
      simpa [hz] using hle
    · have hz : e.toNat = 0 := by omega
      rw [if_neg he]
      exact signed_div_le (Nat.two_pow_pos _) (by simpa [hz] using hle)

end Decimal.Parts

namespace Value

open Decimal

lemma truncate?_of_toInteger {v : Value} {p : Parts} {t : Int} (hp : v.parts? = some p)
    (h : v.toInteger = .ok t) : p.truncate? = some t := by
  cases v with
  | bool b =>
    simp only [parts?, toInteger, Option.some.injEq, Except.ok.injEq] at hp h
    rw [← hp, ← h, Parts.truncate?_ofInt]
  | int i =>
    simp only [parts?, toInteger, Option.some.injEq, Except.ok.injEq] at hp h
    rw [← hp, ← h, Parts.truncate?_ofInt]
  | float f =>
    simp only [parts?, Option.some.injEq] at hp
    simp only [toInteger, hp] at h
    cases p with
    | nan => simp at h
    | infinite negative => simp at h
    | finite negative m e =>
      simp only [Parts.truncate?_finite, Option.getD_some, Except.ok.injEq] at h
      rw [Parts.truncate?_finite, h]
  | _ => simp [parts?] at hp

lemma exists_compare?_of_atMost {a b : Value} (h : a.atMost b = .ok true) :
    ∃ p q o, a.parts? = some p ∧ b.parts? = some q ∧ p.compare? q = some o ∧ o ≠ .gt := by
  unfold atMost at h
  split at h
  · rename_i i j
    refine ⟨_, _, _, rfl, rfl, Parts.compare?_ofInt i j, ?_⟩
    simp only [Except.ok.injEq, decide_eq_true_eq] at h
    exact mt compare_gt_iff_gt.mp (not_lt.mpr h)
  · split at h
    · rename_i p q hp hq
      refine ⟨p, q, ?_⟩
      cases ho : p.compare? q with
      | none => simp [ho] at h
      | some o =>
        refine ⟨o, hp, hq, rfl, ?_⟩
        rintro rfl
        simp [ho] at h
    · simp at h

variable {a b : Value} {p q : Parts}

lemma exists_parts_of_less {less : Bool} (h : a.less b = .ok less) :
    ∃ p q, a.parts? = some p ∧ b.parts? = some q := by
  unfold Value.less at h
  split at h
  · exact ⟨_, _, rfl, rfl⟩
  · split at h
    · rename_i p q hp hq
      exact ⟨p, q, hp, hq⟩
    · cases h

lemma exists_parts_of_atMost {atMost : Bool} (h : a.atMost b = .ok atMost) :
    ∃ p q, a.parts? = some p ∧ b.parts? = some q := by
  unfold Value.atMost at h
  split at h
  · exact ⟨_, _, rfl, rfl⟩
  · split at h
    · rename_i p q hp hq
      exact ⟨p, q, hp, hq⟩
    · cases h

lemma exists_less (ha : a.parts? = some p) (hb : b.parts? = some q) : ∃ less, a.less b = .ok less := by
  unfold less
  split
  · exact ⟨_, rfl⟩
  · rw [ha, hb]
    exact ⟨_, rfl⟩

lemma exists_minus (h : a.parts? = some p) (n : Int) :
    ∃ v q, a.minus n = .ok v ∧ v.parts? = some q := by
  cases a with
  | bool b => exact ⟨_, _, rfl, rfl⟩
  | int i => exact ⟨_, _, rfl, rfl⟩
  | float f => exact ⟨_, _, rfl, rfl⟩
  | _ => cases h

lemma same_int_self (i : Int) : (Value.int i).same (.int i) = true := by
  rw [same_int]
  exact beq_self_eq_true i

lemma same_of_whole {u v : Value} {i j : Int} (hu : u.whole? = some i) (hv : v.whole? = some j) :
    u.same v = (i == j) := by
  have hcompare : ((Parts.ofInt i).compare? (Parts.ofInt j) == some .eq) = (i == j) := by
    rw [Parts.compare?_ofInt, Bool.eq_iff_iff, beq_iff_eq, beq_iff_eq, Option.some.injEq,
      compare_eq_iff_eq]
  cases u with
  | int i' =>
    cases hu
    cases v with
    | int j' =>
      cases hv
      exact same_int i j
    | bool b =>
      cases hv
      simpa [same, sameNumber, parts?] using hcompare
    | _ => cases hv
  | bool a =>
    cases hu
    cases v with
    | int j' =>
      cases hv
      simpa [same, sameNumber, parts?] using hcompare
    | bool b =>
      cases hv
      simpa [same, sameNumber, parts?] using hcompare
    | _ => cases hv
  | _ => cases hu

lemma toInteger_of_whole {v : Value} {i : Int} (h : v.whole? = some i) : v.toInteger = .ok i := by
  cases v with
  | int j =>
    cases h
    rfl
  | bool b =>
    cases h
    rfl
  | _ => cases h

lemma pos_of_whole {v : Value} {i : Int} (h : v.whole? = some i)
    (hlow : v.atMost (.int 0) = .ok false) : 0 < i := by
  cases v with
  | int j =>
    cases h
    rw [atMost_int, Except.ok.injEq, decide_eq_false_iff_not] at hlow
    omega
  | bool b =>
    cases h
    cases b with
    | true => decide
    | false => cases hlow
  | _ => cases h

lemma eq_of_same_int {i w : Int} {v : Value} (h : (Value.int i).same v = true)
    (hw : v.whole? = some w) : i = w := by
  cases v with
  | int j =>
    rw [same_int, beq_iff_eq] at h
    simp only [whole?, Option.some.injEq] at hw
    rw [h, hw]
  | bool b =>
    simp only [whole?, Option.some.injEq] at hw
    have hc : (Parts.ofInt i).compare? (Parts.ofInt b.toInt) = some .eq := by
      simpa [same, sameNumber, parts?] using h
    rw [Parts.compare?_ofInt, Option.some.injEq, compare_eq_iff_eq] at hc
    rw [hc, hw]
  | _ => simp [whole?] at hw

lemma pos_of_same_int {i : Int} {v : Value} (h : (Value.int i).same v = true)
    (hlow : v.atMost (.int 0) = .ok false) : 0 < i := by
  cases v with
  | int j =>
    have heq := eq_of_same_int h rfl
    exact heq ▸ pos_of_whole rfl hlow
  | bool b =>
    have heq := eq_of_same_int h rfl
    exact heq ▸ pos_of_whole rfl hlow
  | float f =>
    have heq : (Parts.ofInt i).compare? (.ofFloat f) = some .eq := by
      simpa [same, sameNumber, parts?] using h
    simp only [atMost, parts?] at hlow
    cases hf : Parts.ofFloat f with
    | nan => simp [hf, Parts.ofInt, Parts.compare?] at heq
    | infinite negative => cases negative <;> simp [hf, Parts.ofInt, Parts.compare?] at heq
    | finite negative m e =>
      rw [hf, Parts.compare?_ofInt_finite, Option.some.injEq, compare_eq_iff_eq] at heq
      rw [hf, Parts.compare?_finite_ofInt, ← heq] at hlow
      have hgt : compare (i * 2 ^ (-e).toNat) (0 * 2 ^ (-e).toNat) = .gt := by
        generalize compare (i * 2 ^ (-e).toNat) (0 * 2 ^ (-e).toNat) = order at hlow
        cases order with
        | gt => rfl
        | lt => cases hlow
        | eq => cases hlow
      have hscale : (0 : Int) < 2 ^ (-e).toNat := by positivity
      rw [compare_gt_iff_gt, zero_mul] at hgt
      exact (mul_pos_iff_of_pos_right hscale).mp hgt
  | _ => cases hlow

end Value

/-- A loose tick in a domain is still in it when it is converted. -/
theorem KeyDomain.contains_of_covers {domain : KeyDomain} {tick : Value} {t : Int}
    (h : domain.covers tick = .ok true) (ht : tick.toInteger = .ok t) :
    domain.contains t = true := by
  unfold KeyDomain.covers at h
  obtain ⟨lower, hlower, h⟩ : ∃ b, (Value.int domain.minKey).atMost tick = .ok b ∧
      (if b then tick.atMost (.int domain.maxKey) else .ok false) = .ok true := by
    cases hb : (Value.int domain.minKey).atMost tick with
    | error e => simp [hb, bind, Except.bind] at h
    | ok b => exact ⟨b, rfl, by simpa [hb, bind, Except.bind] using h⟩
  cases lower with
  | false => simp at h
  | true =>
    rw [if_pos rfl] at h
    obtain ⟨p, q, o, hp, hq, hlo, ho⟩ := Value.exists_compare?_of_atMost hlower
    obtain ⟨q', r, o', hq', hr, hhi, ho'⟩ := Value.exists_compare?_of_atMost h
    cases hp
    cases hr
    obtain rfl : q = q' := Option.some.inj (hq.symm.trans hq')
    have htrunc := Value.truncate?_of_toInteger hq ht
    simp only [KeyDomain.contains, Bool.and_eq_true, decide_eq_true_eq]
    exact ⟨Decimal.Parts.le_truncate? hlo ho htrunc, Decimal.Parts.truncate?_le hhi ho' htrunc⟩

end TickWalk
