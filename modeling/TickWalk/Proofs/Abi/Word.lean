import TickWalk.Abi.Word
import Mathlib.Algebra.Group.Nat.Defs
import Mathlib.Algebra.Ring.Int.Defs
import Mathlib.Tactic.Lemma

/-!
# Words read back

A number is read back from its bytes when it has no more than they can hold, and a row of bytes is the
only one of its length for the number that it spells. In a row of words each word is read at its place.
-/

namespace TickWalk.Abi

lemma length_bigEndian (width n : Nat) : (bigEndian width n).length = width := by
  induction width generalizing n with
  | zero => rfl
  | succ width ih =>
    unfold bigEndian
    rw [List.length_append, ih, List.length_singleton]

lemma ofBigEndian_concat (bytes : List UInt8) (b : UInt8) :
    ofBigEndian (bytes ++ [b]) = ofBigEndian bytes * 256 + b.toNat := by
  unfold ofBigEndian
  rw [List.foldl_append]
  rfl

lemma ofBigEndian_bigEndian {width n : Nat} (h : n < 256 ^ width) :
    ofBigEndian (bigEndian width n) = n := by
  induction width generalizing n with
  | zero => exact (Nat.lt_one_iff.mp h).symm
  | succ width ih =>
    have hrest : n / 256 < 256 ^ width := Nat.div_lt_of_lt_mul (by rwa [← Nat.pow_succ'])
    have hlast : (UInt8.ofNat (n % 256)).toNat = n % 256 :=
      UInt8.toNat_ofNat_of_lt' (Nat.mod_lt n (by decide))
    unfold bigEndian
    rw [ofBigEndian_concat, ih hrest, hlast, Nat.div_add_mod']

lemma bigEndian_ofBigEndian_of_length {width : Nat} {bytes : List UInt8} (h : bytes.length = width) :
    bigEndian width (ofBigEndian bytes) = bytes := by
  induction width generalizing bytes with
  | zero => exact (List.length_eq_zero_iff.mp h).symm
  | succ width ih =>
    obtain ⟨rest, b, rfl⟩ : ∃ rest b, bytes = rest ++ [b] := by
      have hne : bytes ≠ [] := List.ne_nil_of_length_eq_add_one h
      exact ⟨bytes.dropLast, bytes.getLast hne, (List.dropLast_concat_getLast hne).symm⟩
    rw [List.length_append, List.length_singleton, Nat.add_right_cancel_iff] at h
    have hb : b.toNat < 256 := b.toNat_lt
    have hrest : (ofBigEndian rest * 256 + b.toNat) / 256 = ofBigEndian rest := by omega
    have hlast : (ofBigEndian rest * 256 + b.toNat) % 256 = b.toNat := by omega
    unfold bigEndian
    rw [ofBigEndian_concat, hrest, hlast, ih h, UInt8.ofNat_toNat]

/-! ### Words -/

variable {n : Nat} {i : Int}

lemma length_word (n : Nat) : (word n).length = 32 := length_bigEndian 32 n

lemma length_signedWord (i : Int) : (signedWord i).length = 32 := length_word _

lemma ofBigEndian_word (h : n < 2 ^ 256) : ofBigEndian (word n) = n := ofBigEndian_bigEndian h

lemma ofBigEndian_signedWord (i : Int) : (ofBigEndian (signedWord i) : Int) = i % 2 ^ 256 := by
  have hpow : ((Nat.pow 2 256 : Nat) : Int) = 2 ^ 256 := rfl
  have hlow : 0 ≤ i % 2 ^ 256 := Int.emod_nonneg i (by decide)
  have hhigh : i % 2 ^ 256 < 2 ^ 256 := Int.emod_lt_of_pos i (by decide)
  unfold signedWord
  rw [hpow, ofBigEndian_word (by omega)]
  exact Int.toNat_of_nonneg hlow

/-- The integer that a word stands for in two's complement. -/
def signedOf (n : Nat) : Int := if n < 2 ^ 255 then n else n - 2 ^ 256

lemma signedOf_signedWord (hlow : -2 ^ 255 ≤ i) (hhigh : i < 2 ^ 255) :
    signedOf (ofBigEndian (signedWord i)) = i := by
  have hword := ofBigEndian_signedWord i
  unfold signedOf
  split
  · omega
  · omega

/-- The number in the word at a place of a row of words. -/
def wordAt (bytes : List UInt8) (place : Nat) : Nat := ofBigEndian ((bytes.drop (32 * place)).take 32)

lemma wordAt_flatten {words : List (List UInt8)} (h : ∀ w ∈ words, w.length = 32) {place : Nat}
    {w : List UInt8} (hw : words[place]? = some w) : wordAt words.flatten place = ofBigEndian w := by
  unfold wordAt
  induction words generalizing place with
  | nil => cases hw
  | cons first rest ih =>
    obtain ⟨hfirst, hrest⟩ := List.forall_mem_cons.mp h
    rw [List.flatten_cons]
    cases place with
    | zero =>
      obtain rfl := Option.some.inj hw
      exact congrArg ofBigEndian (List.take_left' hfirst)
    | succ place =>
      have hdrop : (first ++ rest.flatten).drop (32 * (place + 1)) = rest.flatten.drop (32 * place) := by
        rw [Nat.mul_add, Nat.add_comm, ← List.drop_drop, Nat.mul_one, List.drop_left' hfirst]
      rw [hdrop]
      exact ih hrest hw

end TickWalk.Abi
