import TickWalk.Text.Hex
import Mathlib.Algebra.Group.Nat.Defs
import Mathlib.Data.Bool.AllAny
import Mathlib.Tactic.Lemma

/-!
# Hexadecimal text reads back

A number that needs no more digits than the width is written with exactly that many. Every digit stands
for its value in either case, so the bytes of a text do not depend on the case of its letters.
-/

namespace TickWalk.Text

variable {n : Nat}

lemma hexDigits_succ (width n : Nat) (hwidth : 0 < width) :
    hexDigits (width + 1) n = hexDigits width (n / 16) ++ [Nat.digitChar (n % 16)] := by
  by_cases hsmall : n < 16
  · have hzero : n / 16 = 0 := Nat.div_eq_of_lt hsmall
    have hdigit : Nat.toDigits 16 0 = ['0'] := Nat.toDigits_of_lt_base (by decide)
    unfold hexDigits
    rw [Nat.toDigits_of_lt_base hsmall, hzero, hdigit, Nat.mod_eq_of_lt hsmall]
    obtain ⟨w, rfl⟩ := Nat.exists_eq_add_one.mpr hwidth
    exact congrArg (· ++ [Nat.digitChar n]) List.replicate_succ'
  · unfold hexDigits
    rw [Nat.toDigits_of_base_le (by decide) (Nat.not_lt.mp hsmall)]
    dsimp only
    rw [List.length_append, List.length_singleton, Nat.add_sub_add_right, List.append_assoc]

lemma hexDigits_one (h : n < 16) : hexDigits 1 n = [Nat.digitChar n] := by
  unfold hexDigits
  rw [Nat.toDigits_of_lt_base h]
  rfl

lemma hexDigits_two (h : n < 256) :
    hexDigits 2 n = [Nat.digitChar (n / 16), Nat.digitChar (n % 16)] := by
  rw [hexDigits_succ 1 n (by decide), hexDigits_one (by omega)]
  rfl

lemma hexDigits_four (h : n < 65536) :
    hexDigits 4 n = [Nat.digitChar (n / 4096), Nat.digitChar (n / 256 % 16),
      Nat.digitChar (n / 16 % 16), Nat.digitChar (n % 16)] := by
  rw [hexDigits_succ 3 n (by decide), hexDigits_succ 2 _ (by decide), hexDigits_two (by omega),
    Nat.div_div_eq_div_mul, Nat.div_div_eq_div_mul, Nat.div_div_eq_div_mul]
  rfl

lemma hexValue?_digitChar : ∀ d < 16, hexValue? (Nat.digitChar d) = some d := by decide

lemma digitChar_mem : ∀ d < 16, Nat.digitChar d ∈ "0123456789abcdef".toList := by decide

lemma hexValue?_toLower (c : Char) : hexValue? c.toLower = hexValue? c := by
  by_cases hupper : c ∈ "ABCDEFGHIJKLMNOPQRSTUVWXYZ".toList
  · have hletters : ∀ d ∈ "ABCDEFGHIJKLMNOPQRSTUVWXYZ".toList,
        hexValue? d.toLower = hexValue? d := List.all_iff_forall_prop.mp (by decide)
    exact hletters c hupper
  · have hkeep : c.toLower = c := by
      unfold Char.toLower
      refine dif_neg fun h => hupper ?_
      obtain ⟨hlow, hhigh⟩ := h
      rw [ge_iff_le, UInt32.le_iff_toNat_le] at hlow
      rw [UInt32.le_iff_toNat_le] at hhigh
      have hcode : c.toNat ∈ List.range' 65 26 := by
        rw [List.mem_range'_1]
        exact ⟨hlow, Nat.lt_succ_of_le hhigh⟩
      have hletters : "ABCDEFGHIJKLMNOPQRSTUVWXYZ".toList = (List.range' 65 26).map Char.ofNat := by
        decide
      rw [hletters, List.mem_map]
      exact ⟨c.toNat, hcode, Char.ofNat_toNat c⟩
    rw [hkeep]

lemma hexValue?_eq_some_iff {c : Char} {d : Nat} :
    hexValue? c = some d ↔ d < 16 ∧ c.toLower = Nat.digitChar d := by
  constructor
  · intro h
    have hcode : c.toNat < 103 := by
      have hle (high : Char) (hc : c ≤ high) : c.toNat ≤ high.toNat := UInt32.le_iff_toNat_le.mp hc
      unfold hexValue? at h
      simp only [Bool.and_eq_true, decide_eq_true_eq] at h
      split at h
      · rename_i hdigit
        exact Nat.lt_of_le_of_lt (hle '9' hdigit.2) (by decide)
      · split at h
        · rename_i hlower
          exact Nat.lt_of_le_of_lt (hle 'f' hlower.2) (by decide)
        · split at h
          · rename_i hupper
            exact Nat.lt_of_le_of_lt (hle 'F' hupper.2) (by decide)
          · cases h
    have hall : ∀ n < 103, ∀ d ∈ hexValue? (Char.ofNat n),
        d < 16 ∧ (Char.ofNat n).toLower = Nat.digitChar d := by decide
    have hc := hall c.toNat hcode
    rw [Char.ofNat_toNat] at hc
    exact hc d h
  · rintro ⟨hd, hlower⟩
    rw [← hexValue?_toLower, hlower]
    exact hexValue?_digitChar d hd

lemma length_hexDigits {width n : Nat} (h : n < 16 ^ (width + 1)) :
    (hexDigits (width + 1) n).length = width + 1 := by
  induction width generalizing n with
  | zero =>
    rw [hexDigits_one h]
    rfl
  | succ width ih =>
    have hrest : n / 16 < 16 ^ (width + 1) := Nat.div_lt_of_lt_mul (by rwa [← Nat.pow_succ'])
    rw [hexDigits_succ (width + 1) n (Nat.succ_pos width), List.length_append, ih hrest,
      List.length_singleton]

lemma hexOfBytes_cons (b : UInt8) (bytes : List UInt8) : hexOfBytes (b :: bytes) =
    Nat.digitChar (b.toNat / 16) :: Nat.digitChar (b.toNat % 16) :: hexOfBytes bytes := by
  rw [hexOfBytes, List.flatMap_cons, hexDigits_two b.toNat_lt]
  rfl

lemma length_hexOfBytes (bytes : List UInt8) : (hexOfBytes bytes).length = 2 * bytes.length := by
  induction bytes with
  | nil => rfl
  | cons b bytes ih =>
    rw [hexOfBytes_cons, List.length_cons, List.length_cons, List.length_cons, ih]
    omega

lemma mem_of_mem_hexOfBytes {bytes : List UInt8} :
    ∀ c ∈ hexOfBytes bytes, c ∈ "0123456789abcdef".toList := by
  induction bytes with
  | nil => exact List.forall_mem_nil _
  | cons b bytes ih =>
    have hb := b.toNat_lt
    rw [hexOfBytes_cons, List.forall_mem_cons, List.forall_mem_cons]
    exact ⟨digitChar_mem _ (by omega), digitChar_mem _ (by omega), ih⟩

lemma map_toLower_hexOfBytes (bytes : List UInt8) :
    (hexOfBytes bytes).map Char.toLower = hexOfBytes bytes := by
  have hlower : ∀ c ∈ "0123456789abcdef".toList, c.toLower = c :=
    List.all_iff_forall_prop.mp (by decide)
  exact (List.map_congr_left fun c hc => hlower c (mem_of_mem_hexOfBytes c hc)).trans (List.map_id _)

/-- Only ASCII letters have an ASCII letter as their lower-case form. -/
lemma toNat_lt_of_toLower {c : Char} (h : c.toLower.toNat < 128) : c.toNat < 128 := by
  unfold Char.toLower at h
  split at h
  · rename_i hupper
    have hhigh := hupper.2
    rw [UInt32.le_iff_toNat_le] at hhigh
    exact Nat.lt_of_le_of_lt hhigh (by decide)
  · exact h

/-- The bytes of a text that spells them, in letters of either case. -/
theorem bytesOfHex?_of_map_toLower {s : List Char} {bytes : List UInt8}
    (h : s.map Char.toLower = hexOfBytes bytes) : bytesOfHex? s = some bytes := by
  induction bytes generalizing s with
  | nil =>
    rw [hexOfBytes, List.flatMap_nil, List.map_eq_nil_iff] at h
    rw [h]
    rfl
  | cons byte bytes ih =>
    have hbyte : byte.toNat < 256 := byte.toNat_lt
    rw [hexOfBytes_cons, List.map_eq_cons_iff] at h
    obtain ⟨high, rest, rfl, hhigh, h⟩ := h
    obtain ⟨low, rest, rfl, hlow, h⟩ := List.map_eq_cons_iff.mp h
    have hhigh : hexValue? high = some (byte.toNat / 16) :=
      hexValue?_eq_some_iff.mpr ⟨by omega, hhigh⟩
    have hlow : hexValue? low = some (byte.toNat % 16) :=
      hexValue?_eq_some_iff.mpr ⟨by omega, hlow⟩
    have hvalue : UInt8.ofNat (byte.toNat / 16 * 16 + byte.toNat % 16) = byte := by
      rw [Nat.div_add_mod' byte.toNat 16]
      exact UInt8.ofNat_toNat
    unfold bytesOfHex?
    rw [hhigh, hlow, ih h]
    exact congrArg (fun b => some (b :: bytes)) hvalue

/-- An even number of digits spells bytes, and these are the bytes whose digits they are. -/
theorem bytesOfHex?_eq_some_iff {s : List Char} {bytes : List UInt8} :
    bytesOfHex? s = some bytes ↔ s.map Char.toLower = hexOfBytes bytes := by
  refine ⟨fun h => ?_, bytesOfHex?_of_map_toLower⟩
  fun_induction bytesOfHex? s generalizing bytes with
  | case1 =>
    obtain rfl := Option.some.inj h
    rfl
  | case2 => cases h
  | case3 high low rest ih =>
    simp only [Option.bind_eq_bind, Option.bind_eq_some_iff, Option.some.injEq] at h
    obtain ⟨a, ha, b, hb, more, hmore, rfl⟩ := h
    rw [hexValue?_eq_some_iff] at ha hb
    obtain ⟨hvalue, hdiv, hmod⟩ : (UInt8.ofNat (a * 16 + b)).toNat = a * 16 + b ∧
        (a * 16 + b) / 16 = a ∧ (a * 16 + b) % 16 = b := by
      refine ⟨UInt8.toNat_ofNat_of_lt' ?_, ?_, ?_⟩
      · exact (by omega : a * 16 + b < 256)
      · omega
      · omega
    rw [hexOfBytes_cons, hvalue, hdiv, hmod, List.map_cons, List.map_cons, ha.2, hb.2, ih hmore]

lemma exists_bytesOfHex? {s : List Char} (heven : s.length % 2 = 0)
    (h : ∀ c ∈ s, (hexValue? c).isSome = true) : ∃ bytes, bytesOfHex? s = some bytes := by
  fun_induction bytesOfHex? s with
  | case1 => exact ⟨[], rfl⟩
  | case2 => cases heven
  | case3 high low rest ih =>
    simp only [List.forall_mem_cons, Option.isSome_iff_exists] at h
    obtain ⟨⟨a, ha⟩, ⟨b, hb⟩, hrest⟩ := h
    simp only [← Option.isSome_iff_exists] at hrest
    rw [List.length_cons, List.length_cons] at heven
    obtain ⟨more, hmore⟩ := ih (by omega) hrest
    rw [ha, hb, hmore]
    exact ⟨_, rfl⟩

lemma isSome_hexValue?_of_map_toLower {s : List Char} {bytes : List UInt8}
    (h : s.map Char.toLower = hexOfBytes bytes) : ∀ c ∈ s, (hexValue? c).isSome = true := by
  have hdigits : ∀ d ∈ "0123456789abcdef".toList, (hexValue? d).isSome = true :=
    List.all_iff_forall_prop.mp (by decide)
  intro c hc
  rw [← hexValue?_toLower]
  exact hdigits _ (mem_of_mem_hexOfBytes _ (h ▸ List.mem_map_of_mem hc))

lemma toNat_lt_of_isSome_hexValue? {c : Char} (h : (hexValue? c).isSome = true) : c.toNat < 128 := by
  obtain ⟨d, hd⟩ := Option.isSome_iff_exists.mp h
  obtain ⟨hlt, hlower⟩ := hexValue?_eq_some_iff.mp hd
  have hall : ∀ d < 16, (Nat.digitChar d).toNat < 128 := by decide
  apply toNat_lt_of_toLower
  rw [hlower]
  exact hall d hlt

end TickWalk.Text
