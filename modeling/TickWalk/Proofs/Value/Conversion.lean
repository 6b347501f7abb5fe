import TickWalk.Proofs.Text.Integer
import TickWalk.Proofs.Value

/-!
# Integers that values stand for

A finite float has no more than 1024 bits in front of its point, and text is read only up to a number of
digits. What a value stands for is therefore short enough to be written, unless the value is a longer
integer itself.
-/

namespace TickWalk

namespace Decimal.Parts

variable {negative : Bool} {m : Nat} {e t : Int}

/-- A finite number has a mantissa of 53 bits and no larger exponent than the largest number. -/
lemma bounds_of_ofBits {w : UInt64} (h : ofBits w = finite negative m e) : m < 2 ^ 53 ∧ e ≤ 971 := by
  have hfield : ((w >>> 52) &&& 0x7ff).toNat ≤ 2047 := by
    rw [UInt64.toNat_and]
    exact Nat.and_le_right
  have hfraction : (w &&& 0xfffffffffffff).toNat < 2 ^ 52 := by
    rw [UInt64.toNat_and]
    exact Nat.lt_of_le_of_lt Nat.and_le_right (by decide)
  unfold ofBits at h
  dsimp only at h
  split at h
  · split at h
    · cases h
    · cases h
  · rename_i hfinite
    split at h
    · cases h
      omega
    · obtain ⟨-, rfl, rfl⟩ := finite.inj h
      have hhidden : Nat.pow 2 52 = 2 ^ 52 := rfl
      omega

lemma natAbs_signed (negative : Bool) (n : Nat) : (signed negative n).natAbs = n := by
  cases negative with
  | true => exact (Int.natAbs_neg _).trans (Int.natAbs_natCast n)
  | false => exact Int.natAbs_natCast n

lemma natAbs_truncate?_lt {bits high : Nat} (hm : m < 2 ^ bits) (he : e ≤ high)
    (h : (finite negative m e).truncate? = some t) : t.natAbs < 2 ^ (bits + high) := by
  rw [truncate?_finite, Option.some.injEq] at h
  rw [← h, natAbs_signed, Nat.pow_add]
  split
  · calc m * 2 ^ e.toNat ≤ m * 2 ^ high :=
          Nat.mul_le_mul_left m (Nat.pow_le_pow_right (by decide) (by omega))
      _ < 2 ^ bits * 2 ^ high := Nat.mul_lt_mul_of_pos_right hm (Nat.two_pow_pos high)
  · calc m / 2 ^ (-e).toNat ≤ m := Nat.div_le_self _ _
      _ < 2 ^ bits := hm
      _ ≤ 2 ^ bits * 2 ^ high := Nat.le_mul_of_pos_right _ (Nat.two_pow_pos high)

end Decimal.Parts

open Decimal

lemma Text.short_of_lt_two_pow {i : Int} {bits : Nat} (hpos : 0 < bits) (hle : bits ≤ digitLimit)
    (h : i.natAbs < 2 ^ bits) : Short i :=
  short_of_lt hpos hle (Nat.lt_of_lt_of_le h (Nat.pow_le_pow_left (by decide) bits))

namespace Value

/-- What a value stands for is short, unless the value is a longer integer itself. -/
theorem short_of_toInteger {v : Value} {i : Int} (h : v.toInteger = .ok i)
    (hint : ∀ j, v = .int j → Text.Short j) : Text.Short i := by
  have hspelled {given : Value} {s : List Char} (h : spelled given s = .ok i) : Text.Short i := by
    unfold spelled at h
    split at h
    · rename_i hread
      obtain rfl := Except.ok.inj h
      exact Text.short_of_readInteger hread
    · cases h
    · cases h
  cases v with
  | bool b =>
    obtain rfl := Except.ok.inj h
    have hsmall : b.toInt.natAbs < Nat.pow 10 1 := by
      cases b with
      | true => decide
      | false => decide
    exact Text.short_of_lt (by decide) (by decide) hsmall
  | int j =>
    obtain rfl := Except.ok.inj h
    exact hint _ rfl
  | float f =>
    cases hparts : Parts.ofFloat f with
    | nan => simp [toInteger, hparts] at h
    | infinite negative => simp [toInteger, hparts] at h
    | finite negative m e =>
      obtain ⟨hm, he⟩ := Parts.bounds_of_ofBits hparts
      have hexponent : e ≤ ((971 : Nat) : Int) := he
      have htruncate := truncate?_of_toInteger (v := .float f) rfl h
      rw [hparts] at htruncate
      exact Text.short_of_lt_two_pow (by decide) (by decide)
        (Parts.natAbs_truncate?_lt hm hexponent htruncate)
  | text s => exact hspelled h
  | bytes b => exact hspelled h
  | buffer b => exact hspelled h
  | null => cases h
  | list items => cases h
  | map fields => cases h

end Value

end TickWalk
