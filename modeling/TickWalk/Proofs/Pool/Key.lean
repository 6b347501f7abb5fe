import TickWalk.Pool.Key
import TickWalk.Proofs.Action
import TickWalk.Proofs.Text.Hex
import Mathlib.Data.List.TakeWhile

/-!
# Keys and identifiers of pools

Every key with an integer fee and spacing has an identifier, since a hash is as long as an identifier has
to be. A text that spells an identifier, in letters of either case, with the mark or without it, is read
as that identifier.
-/

namespace TickWalk

/-! ### Hashes and keys -/

lemma Hash.length_keccak256 (message : List UInt8) : (keccak256 message).length = 32 := by
  have hlane (w : UInt64) : (bytesOfLane w).length = 8 := by
    rw [bytesOfLane, List.length_map, List.length_range]
  unfold keccak256
  simp only [List.length_flatMap, hlane]
  rfl

namespace PoolKey

variable {casing : Casing} {currency0 currency1 hooks : Value} {fee spacing : Int} {key : PoolKey}

lemma address_eq_ok_iff {name : String} {v : Value} {a : Address} :
    address casing name v = .ok a ↔ Address.ofValue? casing v = some a := by
  unfold address
  cases Address.ofValue? casing v with
  | none => exact ⟨nofun, nofun⟩
  | some b => rw [Except.ok.injEq, Option.some.injEq]

lemma between_int (low i high : Int) :
    between low (.int i) high = .ok (decide (low ≤ i ∧ i ≤ high)) := by
  unfold between
  rw [Value.atMost_int, ok_bind]
  by_cases hlow : low ≤ i
  · simp [hlow]
  · simp [hlow]

/-- A fee that a pool may have: the mark of a dynamic fee, or one in range. -/
def FeeFits (fee : Int) : Prop := fee = dynamicFee ∨ (0 ≤ fee ∧ fee ≤ maxFee)

instance (fee : Int) : Decidable (FeeFits fee) :=
  inferInstanceAs (Decidable (fee = dynamicFee ∨ (0 ≤ fee ∧ fee ≤ maxFee)))

lemma feeAllowed_int (fee : Int) : feeAllowed (.int fee) = .ok (decide (FeeFits fee)) := by
  unfold feeAllowed FeeFits
  rw [Value.same_int, between_int]
  by_cases hdynamic : fee = dynamicFee
  · simp [hdynamic]
  · simp [hdynamic]

def SpacingFits (spacing : Int) : Prop := 1 ≤ spacing ∧ spacing ≤ maxSpacing

/-- What it takes for a key with an integer fee and spacing to be accepted, and what it then holds. -/
theorem ofSpellings_eq_ok_iff :
    ofSpellings casing currency0 currency1 (.int fee) (.int spacing) hooks = .ok key ↔
      (Address.ofValue? casing currency0 = some key.currency0 ∧
        Address.ofValue? casing currency1 = some key.currency1 ∧
        Address.ofValue? casing hooks = some key.hooks) ∧
      (key.fee = .int fee ∧ key.spacing = .int spacing) ∧
      key.currency0.number < key.currency1.number ∧ FeeFits fee ∧ SpacingFits spacing := by
  constructor
  · intro h
    obtain ⟨a, ha, h⟩ := exists_of_bind_ok h
    obtain ⟨b, hb, h⟩ := exists_of_bind_ok h
    obtain ⟨c, hc, h⟩ := exists_of_bind_ok h
    rw [address_eq_ok_iff] at ha hb hc
    split at h
    · cases h
    · rename_i horder
      rw [feeAllowed_int, ok_bind] at h
      split at h
      · cases h
      · rename_i hfee
        rw [between_int, ok_bind] at h
        split at h
        · cases h
        · rename_i hspacing
          obtain rfl := Except.ok.inj h
          refine ⟨⟨ha, hb, hc⟩, ⟨rfl, rfl⟩, Nat.not_le.mp horder, ?_, ?_⟩
          · simpa using hfee
          · simpa [SpacingFits] using hspacing
  · rintro ⟨⟨ha, hb, hc⟩, ⟨hfee, hspacing⟩, horder, hfeeFits, hspacingFits⟩
    unfold ofSpellings
    rw [address_eq_ok_iff.mpr ha, ok_bind, address_eq_ok_iff.mpr hb, ok_bind,
      address_eq_ok_iff.mpr hc, ok_bind, if_neg (Nat.not_le.mpr horder), feeAllowed_int, ok_bind,
      if_neg (by simp [hfeeFits]), between_int, ok_bind,
      if_neg (by simp [hspacingFits.1, hspacingFits.2])]
    cases key
    dsimp only at hfee hspacing
    rw [hfee, hspacing]

lemma exists_address_of_ofSpellings
    (h : ofSpellings casing currency0 currency1 (.int fee) (.int spacing) hooks = .ok key) :
    (∃ a, Address.ofValue? casing currency0 = some a) ∧
      (∃ a, Address.ofValue? casing currency1 = some a) ∧
      ∃ a, Address.ofValue? casing hooks = some a := by
  obtain ⟨⟨h0, h1, h2⟩, -⟩ := ofSpellings_eq_ok_iff.mp h
  exact ⟨⟨_, h0⟩, ⟨_, h1⟩, ⟨_, h2⟩⟩

lemma fitsUnsigned_of_feeFits (h : FeeFits fee) : Abi.fitsUnsigned 24 fee = true := by
  have hbits : ((Nat.pow 2 24 : Nat) : Int) = 16777216 := rfl
  unfold FeeFits dynamicFee maxFee at h
  simp only [Abi.fitsUnsigned, hbits, Bool.and_eq_true, decide_eq_true_eq]
  omega

lemma fits_of_spacingFits (h : SpacingFits spacing) : Abi.fits 24 spacing = true := by
  have hhalf : ((Nat.pow 2 (24 - 1) : Nat) : Int) = 8388608 := rfl
  unfold SpacingFits maxSpacing at h
  simp only [Abi.fits, hhalf, Bool.and_eq_true, decide_eq_true_eq]
  omega

lemma encode_of_ofSpellings
    (h : ofSpellings casing currency0 currency1 (.int fee) (.int spacing) hooks = .ok key) :
    key.encode = .ok (Abi.word key.currency0.number ++ Abi.word key.currency1.number ++
      Abi.signedWord fee ++ Abi.signedWord spacing ++ Abi.word key.hooks.number) := by
  obtain ⟨-, ⟨hfee, hspacing⟩, -, hfeeFits, hspacingFits⟩ := ofSpellings_eq_ok_iff.mp h
  unfold encode
  rw [hfee, hspacing, integerWord, integerWord, if_pos (fitsUnsigned_of_feeFits hfeeFits),
    if_pos (fits_of_spacingFits hspacingFits), ok_bind, ok_bind]

lemma exists_identifier
    (h : ofSpellings casing currency0 currency1 (.int fee) (.int spacing) hooks = .ok key) :
    ∃ id, key.identifier = .ok id := by
  unfold identifier
  rw [encode_of_ofSpellings h, ok_bind]
  exact ⟨_, dif_pos (Hash.length_keccak256 _)⟩

end PoolKey

/-! ### Spelled identifiers -/

/-- The digits of a text, behind the mark if there is one, are those of the identifier in any case. -/
def PoolId.Spells (id : PoolId) (s : String) : Prop :=
  (Text.afterMark s.toList).map Char.toLower = Text.hexOfBytes id.bytes

namespace PoolId

variable {id : PoolId} {s : String}

lemma spells_text (id : PoolId) : id.Spells id.text := by
  unfold Spells text
  rw [String.toList_ofList]
  exact Text.map_toLower_hexOfBytes id.bytes

lemma head_ne_dash_of_spells (h : id.Spells s) : s.toList.head? ≠ some '-' := by
  intro hdash
  obtain ⟨rest, hs⟩ : ∃ rest, s.toList = '-' :: rest := by
    cases hs : s.toList with
    | nil =>
      rw [hs] at hdash
      cases hdash
    | cons c rest =>
      rw [hs] at hdash
      obtain rfl := Option.some.inj hdash
      exact ⟨rest, rfl⟩
  unfold Spells at h
  rw [hs] at h
  have hmem : '-' ∈ Text.hexOfBytes id.bytes := by
    rw [← h]
    exact List.mem_cons_self
  have hdigits : '-' ∉ "0123456789abcdef".toList := by decide
  exact hdigits (Text.mem_of_mem_hexOfBytes _ hmem)

lemma isEmpty_of_spells (h : id.Spells s) : s.isEmpty = false := by
  rw [Bool.eq_false_iff, Ne, String.isEmpty_iff]
  rintro rfl
  have hlength := congrArg List.length h
  rw [Text.length_hexOfBytes, id.size] at hlength
  cases hlength

end PoolId

lemma Address.ofText?_of_ofValue? {casing : Casing} {s : String} {a : Address}
    (h : ofValue? casing (.text s) = some a) : ofText? s = some a :=
  (Option.filter_eq_some_iff.mp h).1

lemma Address.isEmpty_of_ofText? {s : String} {a : Address} (h : ofText? s = some a) :
    s.isEmpty = false := by
  rw [Bool.eq_false_iff, Ne, String.isEmpty_iff]
  rintro rfl
  cases h

lemma Address.head_ne_dash {s : String} {a : Address} (h : ofText? s = some a) :
    s.toList.head? ≠ some '-' := by
  intro hdash
  cases hs : s.toList with
  | nil =>
    rw [hs] at hdash
    cases hdash
  | cons c rest =>
    rw [hs] at hdash
    obtain rfl := Option.some.inj hdash
    unfold ofText? at h
    rw [hs] at h
    dsimp only at h
    split at h
    · cases h
    · cases h

end TickWalk
