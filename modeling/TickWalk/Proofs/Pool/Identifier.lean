import TickWalk.Proofs.Pool.Key

/-!
# What is taken for an identifier

Bytes are an identifier when there are 32 of them. A text is one when it spells 32 bytes by 64
hexadecimal digits, and also when it has 63: a row of an odd number of digits is read behind a zero, so
that a text that has lost one digit is taken for the identifier of another pool. Every other text is
refused.
-/

namespace TickWalk

namespace PoolId

variable {id : PoolId} {s : String} {bytes : List UInt8}

/-- Behind the mark, if there is one, the text is a row of so many hexadecimal digits. -/
def HasDigits (count : Nat) (s : String) : Prop :=
  (Text.afterMark s.toList).length = count ∧
    ∀ c ∈ Text.afterMark s.toList, (Text.hexValue? c).isSome = true

/-- The text is refused: for a character that is no ASCII or no digit, or for how many bytes it is. -/
inductive Refusal : Failure → Prop
  | notAscii (first : Char) (start stop : Nat) : Refusal (.notAscii first start stop)
  | notHex : Refusal .notHex
  | length (count : Nat) (h : count ≠ 32) : Refusal (.poolIdLength count)

/-- The text is read as the identifier whose 64 digits it has, and is refused if it has not as many. -/
structure ReadAsSpelled (s : String) : Prop where
  full : HasDigits 64 s → ∃ id, ofValue (.text s) = .ok id ∧ id.Spells s
  other : ¬ HasDigits 64 s → ∃ e, ofValue (.text s) = .error e ∧ Refusal e

/-- The digits of the text are those of the identifier behind a zero. -/
def SpellsBehindZero (id : PoolId) (s : String) : Prop :=
  '0' :: (Text.afterMark s.toList).map Char.toLower = Text.hexOfBytes id.bytes

/-! ### Bytes -/

lemma ofBytes_eq_ok_iff : ofBytes bytes = .ok id ↔ bytes = id.bytes := by
  unfold ofBytes
  constructor
  · intro h
    split at h
    · obtain rfl := Except.ok.inj h
      rfl
    · cases h
  · rintro rfl
    exact dif_pos id.size

lemma ofBytes_of_length_ne (h : bytes.length ≠ 32) :
    ofBytes bytes = .error (.poolIdLength bytes.length) := dif_neg h

/-! ### Digits in pairs -/

def paired (ds : List Char) : List Char := if ds.length % 2 = 0 then ds else '0' :: ds

lemma length_paired_mod_two (ds : List Char) : (paired ds).length % 2 = 0 := by
  unfold paired
  split
  · assumption
  · rw [List.length_cons]
    omega

lemma forall_mem_paired_iff {ds : List Char} :
    (∀ c ∈ paired ds, (Text.hexValue? c).isSome = true) ↔
      ∀ c ∈ ds, (Text.hexValue? c).isSome = true := by
  have hzero : (Text.hexValue? '0').isSome = true := rfl
  unfold paired
  split
  · exact Iff.rfl
  · rw [List.forall_mem_cons, and_iff_right hzero]

lemma bytesOfText_eq_ok_iff : bytesOfText s = .ok bytes ↔
    (paired (Text.afterMark s.toList)).map Char.toLower = Text.hexOfBytes bytes := by
  have hpaired (ds : List Char) : (if ds.length % 2 = 0 then ds else '0' :: ds) = paired ds := rfl
  unfold bytesOfText
  dsimp only
  rw [hpaired, ← Text.bytesOfHex?_eq_some_iff]
  constructor
  · intro h
    split at h
    · cases h
    · split at h
      · rename_i hbytes
        rw [hbytes, Except.ok.inj h]
      · cases h
  · intro h
    have hascii : ∀ c ∈ paired (Text.afterMark s.toList), isAscii c = true := fun c hc =>
      decide_eq_true (Text.toNat_lt_of_isSome_hexValue?
        (Text.isSome_hexValue?_of_map_toLower (Text.bytesOfHex?_eq_some_iff.mp h) c hc))
    rw [List.dropWhile_eq_nil_iff.mpr hascii]
    dsimp only
    rw [h]

lemma refusal_of_bytesOfText {e : Failure} (h : bytesOfText s = .error e) : Refusal e := by
  unfold bytesOfText at h
  dsimp only at h
  split at h
  · obtain rfl := Except.error.inj h
    exact .notAscii _ _ _
  · split at h
    · cases h
    · obtain rfl := Except.error.inj h
      exact .notHex

/-! ### Texts -/

lemma ofValue_text_eq_ok_iff : ofValue (.text s) = .ok id ↔
    (paired (Text.afterMark s.toList)).map Char.toLower = Text.hexOfBytes id.bytes := by
  rw [← bytesOfText_eq_ok_iff]
  unfold ofValue
  dsimp only
  constructor
  · intro h
    obtain ⟨bytes, hbytes, hid⟩ := exists_of_bind_ok h
    rw [hbytes, ofBytes_eq_ok_iff.mp hid]
  · intro h
    rw [h, ok_bind]
    exact ofBytes_eq_ok_iff.mpr rfl

lemma length_of_spells (h : id.Spells s) : (Text.afterMark s.toList).length = 64 := by
  rw [← List.length_map (f := Char.toLower), h, Text.length_hexOfBytes, id.size]

lemma length_of_spellsBehindZero (h : id.SpellsBehindZero s) :
    (Text.afterMark s.toList).length = 63 := by
  have hlength := congrArg List.length h
  rw [List.length_cons, List.length_map, Text.length_hexOfBytes, id.size] at hlength
  omega

/-- A text is read as an identifier when its digits are those of the identifier, perhaps but for a zero
in front of them. -/
theorem ofValue_text_eq_ok_iff_spells :
    ofValue (.text s) = .ok id ↔ id.Spells s ∨ id.SpellsBehindZero s := by
  rw [ofValue_text_eq_ok_iff]
  unfold paired
  constructor
  · intro h
    split at h
    · exact .inl h
    · exact .inr h
  · rintro (h | h)
    · rw [length_of_spells h, if_pos rfl]
      exact h
    · rw [length_of_spellsBehindZero h, if_neg (by decide)]
      exact h

lemma ofValue_of_spells (h : id.Spells s) : ofValue (.text s) = .ok id :=
  ofValue_text_eq_ok_iff_spells.mpr (.inl h)

lemma refusal_of_ofValue_text {e : Failure} (h : ofValue (.text s) = .error e) : Refusal e := by
  unfold ofValue at h
  rcases error_or_of_bind_error h with hbytes | ⟨bytes, -, hlength⟩
  · exact refusal_of_bytesOfText hbytes
  · unfold ofBytes at hlength
    split at hlength
    · cases hlength
    · obtain rfl := Except.error.inj hlength
      exact .length _ ‹_›

lemma hasDigits_of_spells (h : id.Spells s) : HasDigits 64 s :=
  ⟨length_of_spells h, Text.isSome_hexValue?_of_map_toLower h⟩

lemma hasDigits_of_spellsBehindZero (h : id.SpellsBehindZero s) : HasDigits 63 s := by
  refine ⟨length_of_spellsBehindZero h, ?_⟩
  have hmap : ('0' :: Text.afterMark s.toList).map Char.toLower = Text.hexOfBytes id.bytes := h
  exact (List.forall_mem_cons.mp (Text.isSome_hexValue?_of_map_toLower hmap)).2

lemma exists_ofValue_text {count : Nat} (hcount : count = 63 ∨ count = 64) (h : HasDigits count s) :
    ∃ id, ofValue (.text s) = .ok id := by
  obtain ⟨hlength, hdigits⟩ := h
  obtain ⟨bytes, hbytes⟩ := Text.exists_bytesOfHex? (length_paired_mod_two _)
    (forall_mem_paired_iff.mpr hdigits)
  rw [Text.bytesOfHex?_eq_some_iff] at hbytes
  have hpaired : (paired (Text.afterMark s.toList)).length = 64 := by
    unfold paired
    rcases hcount with rfl | rfl
    · rw [hlength, if_neg (by decide), List.length_cons, hlength]
    · rw [hlength, if_pos rfl, hlength]
  have hsize : bytes.length = 32 := by
    have hlength := congrArg List.length hbytes
    rw [List.length_map, hpaired, Text.length_hexOfBytes] at hlength
    omega
  exact ⟨⟨bytes, hsize⟩, ofValue_text_eq_ok_iff.mpr hbytes⟩

/-- A text that has lost a digit is read as the identifier that has a zero in front of the others. -/
lemma exists_spellsBehindZero (h : HasDigits 63 s) :
    ∃ id, ofValue (.text s) = .ok id ∧ id.SpellsBehindZero s := by
  obtain ⟨id, hid⟩ := exists_ofValue_text (.inl rfl) h
  refine ⟨id, hid, (ofValue_text_eq_ok_iff_spells.mp hid).resolve_left fun hspells => ?_⟩
  exact absurd ((length_of_spells hspells).symm.trans h.1) (by decide)

theorem readAsSpelled_of_not_hasDigits (h : ¬ HasDigits 63 s) : ReadAsSpelled s := by
  constructor
  · intro hfull
    obtain ⟨id, hid⟩ := exists_ofValue_text (.inr rfl) hfull
    refine ⟨id, hid, (ofValue_text_eq_ok_iff_spells.mp hid).resolve_right fun hzero => ?_⟩
    exact h (hasDigits_of_spellsBehindZero hzero)
  · intro hother
    cases hresult : ofValue (.text s) with
    | ok id =>
      rcases ofValue_text_eq_ok_iff_spells.mp hresult with hspells | hzero
      · exact absurd (hasDigits_of_spells hspells) hother
      · exact absurd (hasDigits_of_spellsBehindZero hzero) h
    | error e => exact ⟨e, rfl, refusal_of_ofValue_text hresult⟩

/-- Bytes are an identifier as they are when there are 32 of them. A text is read as it is spelled, by 64
digits and no other number, except where it has 63: these are read behind a zero. -/
theorem identifiers_read_as_spelled_iff (s : String) (given : Value) (bytes : List UInt8) :
    (ReadAsSpelled s ↔ ¬ HasDigits 63 s) ∧
      (HasDigits 63 s → ∃ id, ofValue (.text s) = .ok id ∧ id.SpellsBehindZero s) ∧
      (given = .bytes bytes ∨ given = .buffer bytes →
        (∀ id, ofValue given = .ok id ↔ bytes = id.bytes) ∧
        (bytes.length ≠ 32 → ofValue given = .error (.poolIdLength bytes.length))) := by
  refine ⟨⟨?_, readAsSpelled_of_not_hasDigits⟩, exists_spellsBehindZero, ?_⟩
  · intro hread hshort
    obtain ⟨id, hid, -⟩ := exists_spellsBehindZero hshort
    obtain ⟨e, he, -⟩ := hread.other fun hfull => absurd (hfull.1.symm.trans hshort.1) (by decide)
    cases hid.symm.trans he
  · rintro (rfl | rfl)
    · exact ⟨fun id => ofBytes_eq_ok_iff, ofBytes_of_length_ne⟩
    · exact ⟨fun id => ofBytes_eq_ok_iff, ofBytes_of_length_ne⟩

/-- A text of 64 digits in both cases, the same text with two digits lost, and no bytes at all. -/
theorem identifiers_read_as_spelled_without_byte :
    let full := "0X" ++ String.ofList (List.replicate 32 'a' ++ List.replicate 32 'B')
    let short := "0X" ++ String.ofList (List.replicate 32 'a' ++ List.replicate 30 'B')
    (∃ id, ofValue (.text full) = .ok id ∧ id.Spells full ∧
      id.bytes = List.replicate 16 170 ++ List.replicate 16 187) ∧
    (∃ e, ofValue (.text short) = .error e ∧ Refusal e) ∧
    ofValue (.bytes []) = .error (.poolIdLength 0) := by
  intro full short
  have hfull : HasDigits 64 full := ⟨by decide, List.all_eq_true.mp (by decide)⟩
  have hother : ¬ HasDigits 63 full := fun h => absurd (hfull.1.symm.trans h.1) (by decide)
  have hshort (count : Nat) (hcount : count ≠ 62) : ¬ HasDigits count short := by
    intro h
    have hlength : (Text.afterMark short.toList).length = 62 := by decide
    exact hcount (h.1.symm.trans hlength)
  obtain ⟨id, hid, hspells⟩ := ((identifiers_read_as_spelled_iff full (.bytes []) []).1.mpr hother).full hfull
  refine ⟨⟨id, hid, hspells, ?_⟩, ?_, ?_⟩
  · have hbytes : (Text.afterMark full.toList).map Char.toLower =
        Text.hexOfBytes (List.replicate 16 170 ++ List.replicate 16 187) := by decide
    have hread := Text.bytesOfHex?_of_map_toLower hspells
    rw [Text.bytesOfHex?_of_map_toLower hbytes] at hread
    exact (Option.some.inj hread).symm
  · exact ((identifiers_read_as_spelled_iff short (.bytes []) []).1.mpr (hshort 63 (by decide))).other
      (hshort 64 (by decide))
  · exact ((identifiers_read_as_spelled_iff full (.bytes []) []).2.2 (.inl rfl)).2 (by decide)

/-- With one digit lost, an identifier is taken for another one. -/
theorem lost_digit_names_another_pool :
    let full := "0x" ++ String.ofList (List.replicate 64 '1')
    let short := "0x" ++ String.ofList (List.replicate 63 '1')
    let id : PoolId := ⟨List.replicate 32 17, rfl⟩
    let other : PoolId := ⟨1 :: List.replicate 31 17, rfl⟩
    ofValue (.text full) = .ok id ∧ ofValue (.text short) = .ok other ∧ ¬ HasDigits 64 short ∧
      ¬ ReadAsSpelled short := by
  intro full short id other
  have hfull : id.Spells full := (by decide : _ = _)
  have hshort : other.SpellsBehindZero short := (by decide : _ = _)
  have hread := ofValue_text_eq_ok_iff_spells.mpr (.inr hshort)
  have hdigits : ¬ HasDigits 64 short := fun h =>
    absurd (h.1.symm.trans (length_of_spellsBehindZero hshort)) (by decide)
  refine ⟨ofValue_text_eq_ok_iff_spells.mpr (.inl hfull), hread, hdigits, fun hspelled => ?_⟩
  obtain ⟨e, he, -⟩ := hspelled.other hdigits
  cases hread.symm.trans he

end PoolId

end TickWalk
