import TickWalk.Pool.Address
import TickWalk.Proofs.Abi.Word
import TickWalk.Proofs.Text.Hex
import Mathlib.Data.List.Induction

/-!
# Spellings of addresses

An address is given by its forty hexadecimal digits in any case, with the mark or without it, or by its
twenty bytes. These are the only values that are read as an address, and each is read as the one that it
spells. Where the case is checked, digits in mixed case are read only from the checksum.
-/

namespace TickWalk

namespace Address

variable {a : Address} {n : Nat} {ds : List Char} {c : Char}

/-- The values that spell an address. -/
inductive GivenAs (casing : Casing) (a : Address) : Value → Prop
  | text (s : String) (h : (Text.afterMark s.toList).map Char.toLower = a.digits)
      (hcase : casing = .checked → Casing.mixed (Text.afterMark s.toList) = true → s = a.checksum) :
      GivenAs casing a (.text s)
  | bytes (b : List UInt8) (h : b = Abi.bigEndian 20 a.number) : GivenAs casing a (.bytes b)
  | buffer (b : List UInt8) (h : b = Abi.bigEndian 20 a.number) : GivenAs casing a (.buffer b)

lemma ofNat?_eq_some_iff : ofNat? n = some a ↔ n = a.number := by
  unfold ofNat?
  constructor
  · intro h
    split at h
    · obtain rfl := Option.some.inj h
      rfl
    · cases h
  · rintro rfl
    exact dif_pos a.small

/-! ### Digits -/

lemma numberOfHex?_concat_eq_some_iff : numberOfHex? (ds ++ [c]) = some n ↔
    ∃ m d, numberOfHex? ds = some m ∧ Text.hexValue? c = some d ∧ m * 16 + d = n := by
  have hconcat : numberOfHex? (ds ++ [c]) =
      (numberOfHex? ds).bind fun m => (Text.hexValue? c).map (m * 16 + ·) := by
    unfold numberOfHex?
    simp only [List.foldlM_append, List.foldlM_cons, List.foldlM_nil, bind_pure]
    rfl
  simp only [hconcat, Option.bind_eq_some_iff, Option.map_eq_some_iff, exists_and_left]

lemma numberOfHex?_eq_some_iff (hne : ds ≠ []) : numberOfHex? ds = some n ↔
    n < 16 ^ ds.length ∧ ds.map Char.toLower = Text.hexDigits ds.length n := by
  induction ds using List.reverseRecOn generalizing n with
  | nil => exact absurd rfl hne
  | append_singleton rest c ih =>
    rw [numberOfHex?_concat_eq_some_iff, List.length_append, List.length_singleton, List.map_append]
    by_cases hrest : rest = []
    · subst hrest
      constructor
      · rintro ⟨m, d, hm, hd, rfl⟩
        obtain rfl := Option.some.inj hm
        obtain ⟨hlt, hlower⟩ := Text.hexValue?_eq_some_iff.mp hd
        rw [Nat.zero_mul, Nat.zero_add]
        refine ⟨hlt, ?_⟩
        rw [List.length_nil, Text.hexDigits_one hlt, ← hlower]
        rfl
      · rintro ⟨hlt, hdigits⟩
        rw [List.length_nil, Text.hexDigits_one hlt] at hdigits
        exact ⟨0, n, rfl, Text.hexValue?_eq_some_iff.mpr ⟨hlt, List.singleton_inj.mp hdigits⟩, by omega⟩
    · have hpos : 0 < rest.length := List.length_pos_iff.mpr hrest
      rw [Text.hexDigits_succ _ _ hpos]
      constructor
      · rintro ⟨m, d, hm, hd, rfl⟩
        obtain ⟨hlt, hdigits⟩ := (ih hrest).mp hm
        obtain ⟨hd, hlower⟩ := Text.hexValue?_eq_some_iff.mp hd
        have hdiv : (m * 16 + d) / 16 = m := by omega
        have hmod : (m * 16 + d) % 16 = d := by omega
        rw [hdiv, hmod, hdigits, ← hlower, Nat.pow_succ]
        exact ⟨by omega, rfl⟩
      · rintro ⟨hlt, hdigits⟩
        obtain ⟨hrestDigits, hlast⟩ := List.append_inj' hdigits rfl
        have hrestLt : n / 16 < 16 ^ rest.length := Nat.div_lt_of_lt_mul (by rwa [← Nat.pow_succ'])
        have hlast := List.singleton_inj.mp hlast
        exact ⟨n / 16, n % 16, (ih hrest).mpr ⟨hrestLt, hrestDigits⟩,
          Text.hexValue?_eq_some_iff.mpr ⟨Nat.mod_lt n (by decide), hlast⟩, Nat.div_add_mod' n 16⟩

lemma length_digits (a : Address) : a.digits.length = 40 := Text.length_hexDigits a.small

lemma ofText?_eq_some_iff {s : String} :
    ofText? s = some a ↔ (Text.afterMark s.toList).map Char.toLower = a.digits := by
  unfold ofText?
  dsimp only
  constructor
  · intro h
    split at h
    · rename_i hlength
      obtain ⟨n, hn, ha⟩ := Option.bind_eq_some_iff.mp h
      obtain rfl := ofNat?_eq_some_iff.mp ha
      have hne : Text.afterMark s.toList ≠ [] := List.ne_nil_of_length_eq_add_one hlength
      obtain ⟨-, hdigits⟩ := (numberOfHex?_eq_some_iff hne).mp hn
      rw [hdigits, hlength]
      rfl
    · cases h
  · intro h
    have hlength : (Text.afterMark s.toList).length = 40 := by
      rw [← List.length_map (f := Char.toLower), h, length_digits]
    have hne : Text.afterMark s.toList ≠ [] := List.ne_nil_of_length_eq_add_one hlength
    have hnumber : numberOfHex? (Text.afterMark s.toList) = some a.number := by
      rw [numberOfHex?_eq_some_iff hne, hlength]
      exact ⟨a.small, h⟩
    rw [if_pos hlength, hnumber]
    exact ofNat?_eq_some_iff.mpr rfl

/-! ### Bytes -/

lemma ofBytes?_eq_some_iff {bytes : List UInt8} :
    ofBytes? bytes = some a ↔ bytes = Abi.bigEndian 20 a.number := by
  unfold ofBytes?
  constructor
  · intro h
    split at h
    · rename_i hlength
      rw [← ofNat?_eq_some_iff.mp h]
      exact (Abi.bigEndian_ofBigEndian_of_length hlength).symm
    · cases h
  · intro h
    rw [h, if_pos (Abi.length_bigEndian 20 _), Abi.ofBigEndian_bigEndian a.small]
    exact ofNat?_eq_some_iff.mpr rfl

lemma admits_iff {casing : Casing} {s : String} : casing.admits s a = true ↔
    (casing = .checked → Casing.mixed (Text.afterMark s.toList) = true → s = a.checksum) := by
  cases casing with
  | free => exact ⟨fun _ => nofun, fun _ => rfl⟩
  | checked => simp [Casing.admits, ← Bool.not_eq_true, imp_iff_not_or]

/-- A value is read as an address exactly when it spells that address. -/
theorem ofValue?_eq_some_iff {casing : Casing} {v : Value} :
    ofValue? casing v = some a ↔ a.GivenAs casing v := by
  constructor
  · intro h
    cases v with
    | text s =>
      obtain ⟨hdigits, hcase⟩ := Option.filter_eq_some_iff.mp h
      exact .text s (ofText?_eq_some_iff.mp hdigits) (admits_iff.mp hcase)
    | bytes b => exact .bytes b (ofBytes?_eq_some_iff.mp h)
    | buffer b => exact .buffer b (ofBytes?_eq_some_iff.mp h)
    | _ => cases h
  · rintro (⟨s, h, hcase⟩ | ⟨b, h⟩ | ⟨b, h⟩)
    · exact Option.filter_eq_some_iff.mpr ⟨ofText?_eq_some_iff.mpr h, admits_iff.mpr hcase⟩
    · exact ofBytes?_eq_some_iff.mpr h
    · exact ofBytes?_eq_some_iff.mpr h

end Address

end TickWalk
