import TickWalk.Proofs.Abi.Word
import TickWalk.Proofs.Pool.Address
import TickWalk.Proofs.Pool.Key

/-!
# Encoded keys

The encoding of an accepted key is five words, from which the key is read back: its addresses need no
more than twenty bytes, its fee is not negative, and both its fee and its spacing fit 24 bits. Keys with
one encoding are therefore keys with the same five values, in whatever spelling their addresses are given.
-/

namespace TickWalk

namespace PoolKey

variable {casing : Casing} {key : PoolKey} {currency0 currency1 hooks : Value} {fee spacing : Int}

def decode? (bytes : List UInt8) : Option PoolKey := do
  let currency0 ← Address.ofNat? (Abi.wordAt bytes 0)
  let currency1 ← Address.ofNat? (Abi.wordAt bytes 1)
  let fee : Int := Abi.wordAt bytes 2
  let spacing := Abi.signedOf (Abi.wordAt bytes 3)
  let hooks ← Address.ofNat? (Abi.wordAt bytes 4)
  if bytes.length = 160 ∧ Abi.fitsUnsigned 24 fee ∧ Abi.fits 24 spacing then
    some ⟨currency0, currency1, .int fee, .int spacing, hooks⟩
  else none

/-- The keys with an integer fee and spacing that are accepted. -/
theorem exists_ofSpellings_iff :
    (∃ key, ofSpellings casing currency0 currency1 (.int fee) (.int spacing) hooks = .ok key) ↔
      ∃ a b c : Address, a.GivenAs casing currency0 ∧ b.GivenAs casing currency1 ∧ c.GivenAs casing hooks ∧
        a.number < b.number ∧ FeeFits fee ∧ SpacingFits spacing := by
  simp only [ofSpellings_eq_ok_iff, Address.ofValue?_eq_some_iff]
  constructor
  · rintro ⟨key, ⟨ha, hb, hc⟩, -, horder, hfee, hspacing⟩
    exact ⟨key.currency0, key.currency1, key.hooks, ha, hb, hc, horder, hfee, hspacing⟩
  · rintro ⟨a, b, c, ha, hb, hc, horder, hfee, hspacing⟩
    exact ⟨⟨a, b, .int fee, .int spacing, c⟩, ⟨ha, hb, hc⟩, ⟨rfl, rfl⟩, horder, hfee, hspacing⟩

/-- The words of a key with this fee and spacing. -/
def words (key : PoolKey) (fee spacing : Int) : List (List UInt8) :=
  [Abi.word key.currency0.number, Abi.word key.currency1.number, Abi.signedWord fee,
    Abi.signedWord spacing, Abi.word key.hooks.number]

lemma length_of_mem_words : ∀ word ∈ key.words fee spacing, word.length = 32 := by
  simp only [words, List.forall_mem_cons, Abi.length_word, Abi.length_signedWord, true_and]
  exact List.forall_mem_nil _

lemma encode_eq_flatten
    (h : ofSpellings casing currency0 currency1 (.int fee) (.int spacing) hooks = .ok key) :
    key.encode = .ok (key.words fee spacing).flatten := by
  rw [encode_of_ofSpellings h]
  simp only [words, List.flatten_cons, List.flatten_nil, List.append_nil, List.append_assoc]

lemma length_flatten_words : (key.words fee spacing).flatten.length = 160 := by
  simp only [words, List.flatten_cons, List.flatten_nil, List.length_append, Abi.length_word,
    Abi.length_signedWord, List.length_nil]

lemma decode?_eq_some_iff {bytes : List UInt8} : decode? bytes = some key ↔
    (key.currency0.number = Abi.wordAt bytes 0 ∧ key.currency1.number = Abi.wordAt bytes 1 ∧
      key.fee = .int (Abi.wordAt bytes 2) ∧ key.spacing = .int (Abi.signedOf (Abi.wordAt bytes 3)) ∧
      key.hooks.number = Abi.wordAt bytes 4) ∧
    bytes.length = 160 ∧ Abi.fitsUnsigned 24 (Abi.wordAt bytes 2) = true ∧
      Abi.fits 24 (Abi.signedOf (Abi.wordAt bytes 3)) = true := by
  unfold decode?
  constructor
  · intro h
    obtain ⟨a, ha, h⟩ := Option.bind_eq_some_iff.mp h
    obtain ⟨b, hb, h⟩ := Option.bind_eq_some_iff.mp h
    obtain ⟨c, hc, h⟩ := Option.bind_eq_some_iff.mp h
    rw [Address.ofNat?_eq_some_iff] at ha hb hc
    split at h
    · rename_i hfits
      obtain rfl := Option.some.inj h
      exact ⟨⟨ha.symm, hb.symm, rfl, rfl, hc.symm⟩, hfits⟩
    · cases h
  · rintro ⟨⟨ha, hb, hfee, hspacing, hc⟩, hfits⟩
    rw [Address.ofNat?_eq_some_iff.mpr ha.symm, Address.ofNat?_eq_some_iff.mpr hb.symm,
      Address.ofNat?_eq_some_iff.mpr hc.symm]
    dsimp only [Option.bind_eq_bind, Option.bind_some]
    rw [if_pos hfits, ← hfee, ← hspacing]

lemma decode?_words (h : ofSpellings casing currency0 currency1 (.int fee) (.int spacing) hooks = .ok key) :
    decode? (key.words fee spacing).flatten = some key := by
  obtain ⟨-, ⟨hfee, hspacing⟩, -, hfeeFits, hspacingFits⟩ := ofSpellings_eq_ok_iff.mp h
  have hread {place : Nat} {w : List UInt8} (hw : (key.words fee spacing)[place]? = some w) :
      Abi.wordAt (key.words fee spacing).flatten place = Abi.ofBigEndian w :=
    Abi.wordAt_flatten length_of_mem_words hw
  have haddress {place : Nat} {a : Address}
      (ha : (key.words fee spacing)[place]? = some (Abi.word a.number)) :
      a.number = Abi.wordAt (key.words fee spacing).flatten place := by
    rw [hread ha, Abi.ofBigEndian_word (Nat.lt_trans a.small (by decide))]
  have hfeeWord : (Abi.wordAt (key.words fee spacing).flatten 2 : Int) = fee := by
    have hword : (key.words fee spacing)[2]? = some (Abi.signedWord fee) := rfl
    unfold FeeFits dynamicFee maxFee at hfeeFits
    rw [hread hword, Abi.ofBigEndian_signedWord]
    exact Int.emod_eq_of_lt (by omega) (by omega)
  have hspacingWord : Abi.signedOf (Abi.wordAt (key.words fee spacing).flatten 3) = spacing := by
    have hword : (key.words fee spacing)[3]? = some (Abi.signedWord spacing) := rfl
    unfold SpacingFits maxSpacing at hspacingFits
    rw [hread hword]
    exact Abi.signedOf_signedWord (by omega) (by omega)
  rw [decode?_eq_some_iff, hfeeWord, hspacingWord]
  exact ⟨⟨haddress rfl, haddress rfl, hfee, hspacing, haddress rfl⟩, length_flatten_words,
    fitsUnsigned_of_feeFits hfeeFits, fits_of_spacingFits hspacingFits⟩

lemma encode_eq_iff (h : ofSpellings casing currency0 currency1 (.int fee) (.int spacing) hooks = .ok key)
    {currency0' currency1' hooks' : Value} {fee' spacing' : Int} {other : PoolKey}
    (hother : ofSpellings casing currency0' currency1' (.int fee') (.int spacing') hooks' = .ok other) :
    other.encode = key.encode ↔
      other.currency0.number = key.currency0.number ∧ other.currency1.number = key.currency1.number ∧
      fee' = fee ∧ spacing' = spacing ∧ other.hooks.number = key.hooks.number := by
  rw [encode_eq_flatten h, encode_eq_flatten hother, Except.ok.injEq]
  constructor
  · intro heq
    have hkey := decode?_words h
    rw [← heq, decode?_words hother, Option.some.injEq] at hkey
    subst hkey
    obtain ⟨-, ⟨hfee, hspacing⟩, -⟩ := ofSpellings_eq_ok_iff.mp h
    obtain ⟨-, ⟨hfee', hspacing'⟩, -⟩ := ofSpellings_eq_ok_iff.mp hother
    exact ⟨rfl, rfl, Value.int.inj (hfee'.symm.trans hfee), Value.int.inj (hspacing'.symm.trans hspacing),
      rfl⟩
  · rintro ⟨h0, h1, rfl, rfl, h2⟩
    unfold words
    rw [h0, h1, h2]

/-- The keys with an integer fee and spacing that are accepted are those of three addresses in any
spelling, the currencies in ascending order, with a fee and a spacing in range. Each of them is encoded as
five words, from which it is read back, and the encoding tells it from every key with other values. This
holds whether the case of letters is checked or not. -/
theorem accepted_keys_encode_their_values (casing : Casing) :
    (∀ (currency0 currency1 hooks : Value) (fee spacing : Int),
      (∃ key, ofSpellings casing currency0 currency1 (.int fee) (.int spacing) hooks = .ok key) ↔
        ∃ a b c : Address,
          a.GivenAs casing currency0 ∧ b.GivenAs casing currency1 ∧ c.GivenAs casing hooks ∧
          a.number < b.number ∧ (fee = dynamicFee ∨ (0 ≤ fee ∧ fee ≤ 1000000)) ∧
          (1 ≤ spacing ∧ spacing ≤ 32767)) ∧
    ∀ (currency0 currency1 hooks : Value) (fee spacing : Int) (key : PoolKey),
      ofSpellings casing currency0 currency1 (.int fee) (.int spacing) hooks = .ok key →
        (key.currency0.GivenAs casing currency0 ∧ key.currency1.GivenAs casing currency1 ∧
          key.hooks.GivenAs casing hooks) ∧
        (key.fee = .int fee ∧ key.spacing = .int spacing) ∧
        ∃ bytes, key.encode = .ok bytes ∧ bytes.length = 160 ∧ decode? bytes = some key ∧
          ∀ (currency0' currency1' hooks' : Value) (fee' spacing' : Int) (other : PoolKey),
            ofSpellings casing currency0' currency1' (.int fee') (.int spacing') hooks' = .ok other →
              (other.encode = .ok bytes ↔
                other.currency0.number = key.currency0.number ∧
                other.currency1.number = key.currency1.number ∧
                fee' = fee ∧ spacing' = spacing ∧ other.hooks.number = key.hooks.number) := by
  constructor
  · intro currency0 currency1 hooks fee spacing
    exact exists_ofSpellings_iff
  · intro currency0 currency1 hooks fee spacing key h
    obtain ⟨⟨h0, h1, h2⟩, hintegers, -⟩ := ofSpellings_eq_ok_iff.mp h
    rw [Address.ofValue?_eq_some_iff] at h0 h1 h2
    refine ⟨⟨h0, h1, h2⟩, hintegers, _, encode_eq_flatten h, length_flatten_words, decode?_words h, ?_⟩
    intro currency0' currency1' hooks' fee' spacing' other hother
    rw [← encode_eq_flatten h]
    exact encode_eq_iff h hother

/-- A pool of a dynamic fee in two spellings, and one of another spacing, where the case is checked. A
checksum with one letter in the other case is refused there, and read where the case is free. -/
theorem two_spellings_have_one_encoding :
    let low : Address := ⟨0xa0b86991c6218b36c1d19d4a2e9eb0ce3606eb48, by decide⟩
    let high : Address := ⟨0xc02aaa39b223fe8d0a0e5c4f27ead9083c756cc2, by decide⟩
    let key : PoolKey := ⟨.zero, low, .int 0x800000, .int 60, high⟩
    let wider : PoolKey := ⟨.zero, low, .int 0x800000, .int 61, high⟩
    let nowhere : Value := .text "0x0000000000000000000000000000000000000000"
    let misspelled : Value := .text "0xa0B86991c6218b36c1d19D4a2e9Eb0cE3606eB48"
    ofSpellings .checked nowhere (.text "0xA0b86991c6218b36c1d19D4a2e9Eb0cE3606eB48") (.int 0x800000)
        (.int 60) (.text "0XC02AAA39B223FE8D0A0E5C4F27EAD9083C756CC2") = .ok key ∧
      ofSpellings .checked (.bytes (List.replicate 20 0))
        (.text "a0b86991c6218b36c1d19d4a2e9eb0ce3606eb48") (.int 0x800000) (.int 60)
        (.text "c02aaa39b223fe8d0a0e5c4f27ead9083c756cc2") = .ok key ∧
      (∃ bytes, key.encode = .ok bytes ∧ bytes.length = 160 ∧ decode? bytes = some key ∧
        wider.encode ≠ .ok bytes) ∧
      (¬ ∃ key, ofSpellings .checked nowhere misspelled (.int 500) (.int 60) nowhere = .ok key) ∧
      ∃ key, ofSpellings .free nowhere misspelled (.int 500) (.int 60) nowhere = .ok key := by
  intro low high key wider nowhere misspelled
  have hbytes : Address.zero.GivenAs .checked (.bytes (List.replicate 20 0)) :=
    .bytes _ (by decide +kernel)
  have hlow : low.GivenAs .checked (.text "a0b86991c6218b36c1d19d4a2e9eb0ce3606eb48") :=
    .text _ (by decide +kernel) fun _ hmixed => absurd hmixed (by decide +kernel)
  have hhigh : high.GivenAs .checked (.text "c02aaa39b223fe8d0a0e5c4f27ead9083c756cc2") :=
    .text _ (by decide +kernel) fun _ hmixed => absurd hmixed (by decide +kernel)
  have hzero (casing : Casing) : Address.zero.GivenAs casing nowhere :=
    .text _ (by decide +kernel) fun _ hmixed => absurd hmixed (by decide +kernel)
  have hsum : low.checksum = "0xA0b86991c6218b36c1d19D4a2e9Eb0cE3606eB48" := by decide +kernel
  have hmixed : low.GivenAs .checked (.text "0xA0b86991c6218b36c1d19D4a2e9Eb0cE3606eB48") :=
    .text _ (by decide +kernel) fun _ _ => hsum.symm
  have hupper : high.GivenAs .checked (.text "0XC02AAA39B223FE8D0A0E5C4F27EAD9083C756CC2") :=
    .text _ (by decide +kernel) fun _ hmixed => absurd hmixed (by decide +kernel)
  have hfree : low.GivenAs .free misspelled := .text _ (by decide +kernel) nofun
  have hchecked : ∀ a : Address, ¬ a.GivenAs .checked misspelled := by
    intro a hgiven
    dsimp only [misspelled] at hgiven
    obtain ⟨_, hdigits, hcase⟩ := hgiven
    have hread : (Address.ofText? "0xa0B86991c6218b36c1d19D4a2e9Eb0cE3606eB48") = some low := by
      decide +kernel
    obtain rfl := Option.some.inj (hread.symm.trans (Address.ofText?_eq_some_iff.mpr hdigits))
    exact absurd ((hcase rfl (by decide +kernel)).trans hsum) (by decide)
  have horder : Address.zero.number < low.number := by decide
  have hkey : ofSpellings .checked nowhere (.text "0xA0b86991c6218b36c1d19D4a2e9Eb0cE3606eB48")
      (.int 0x800000) (.int 60) (.text "0XC02AAA39B223FE8D0A0E5C4F27EAD9083C756CC2") = .ok key := by
    rw [ofSpellings_eq_ok_iff, Address.ofValue?_eq_some_iff, Address.ofValue?_eq_some_iff,
      Address.ofValue?_eq_some_iff]
    exact ⟨⟨hzero _, hmixed, hupper⟩, ⟨rfl, rfl⟩, horder, .inl rfl, by decide, by decide⟩
  have hplain (spacing : Int) (h : 1 ≤ spacing ∧ spacing ≤ maxSpacing) :
      ofSpellings .checked (.bytes (List.replicate 20 0))
        (.text "a0b86991c6218b36c1d19d4a2e9eb0ce3606eb48") (.int 0x800000) (.int spacing)
        (.text "c02aaa39b223fe8d0a0e5c4f27ead9083c756cc2") =
          .ok ⟨.zero, low, .int 0x800000, .int spacing, high⟩ := by
    rw [ofSpellings_eq_ok_iff, Address.ofValue?_eq_some_iff, Address.ofValue?_eq_some_iff,
      Address.ofValue?_eq_some_iff]
    exact ⟨⟨hbytes, hlow, hhigh⟩, ⟨rfl, rfl⟩, horder, .inl rfl, h⟩
  obtain ⟨-, -, bytes, hencode, hlength, hdecode, hsame⟩ :=
    (accepted_keys_encode_their_values .checked).2 _ _ _ _ _ key hkey
  refine ⟨hkey, hplain 60 (by decide), ⟨bytes, hencode, hlength, hdecode, fun hwider => ?_⟩, ?_, ?_⟩
  · obtain ⟨-, -, -, hspacing, -⟩ := (hsame _ _ _ _ _ wider (hplain 61 (by decide))).mp hwider
    exact absurd hspacing (by decide)
  · rw [(accepted_keys_encode_their_values .checked).1]
    rintro ⟨a, b, c, -, hb, -⟩
    exact hchecked b hb
  · rw [(accepted_keys_encode_their_values .free).1]
    exact ⟨_, _, _, hzero _, hfree, hzero _, horder, .inr ⟨by decide, by decide⟩, by decide, by decide⟩

end PoolKey

end TickWalk
