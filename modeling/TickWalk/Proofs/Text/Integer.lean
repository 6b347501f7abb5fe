import TickWalk.Value.Integer
import Mathlib.Data.List.TakeWhile
import Mathlib.Algebra.Group.Nat.Defs
import Mathlib.Tactic.Lemma

/-!
# Written integers read back

The plain decimal form of an integer is a row of digits, perhaps behind a minus sign, with no blank
around it. Reading it gives the integer again, unless it has more digits than may be read.
-/

namespace TickWalk

namespace Text

/-- The integer has no more decimal digits than are converted. -/
def Short (i : Int) : Prop := (Nat.toDigits 10 i.natAbs).length ≤ digitLimit

instance (i : Int) : Decidable (Short i) := inferInstanceAs (Decidable (_ ≤ _))

lemma short_iff {i : Int} : Short i ↔ i.natAbs < Nat.pow 10 digitLimit := by
  have hpos : 0 < digitLimit := by decide
  -- For a limit that is not known, so that the power is not computed.
  unfold Short
  generalize digitLimit = limit at hpos
  exact Nat.length_toDigits_le_iff (by decide) hpos

lemma short_of_lt {i : Int} {digits : Nat} (hpos : 0 < digits) (hle : digits ≤ digitLimit)
    (h : i.natAbs < Nat.pow 10 digits) : Short i :=
  Nat.le_trans ((Nat.length_toDigits_le_iff (by decide) hpos).mpr h) hle

variable {c : Char} {s : List Char}

lemma toNat_of_isDigit (h : c.isDigit = true) : 48 ≤ c.toNat ∧ c.toNat ≤ 57 := by
  simp only [Char.isDigit, Bool.and_eq_true, decide_eq_true_eq, ge_iff_le, UInt32.le_iff_toNat_le] at h
  exact h

lemma decimal?_of_isDigit (h : c.isDigit = true) : decimal? c = some (c.toNat - '0'.toNat) := by
  obtain ⟨hlow, hhigh⟩ := toNat_of_isDigit h
  have hfirst : (decide (0x30 ≤ c.toNat) && decide (c.toNat < 0x30 + 10)) = true := by
    rw [Bool.and_eq_true, decide_eq_true_eq, decide_eq_true_eq]
    omega
  have hzero : (zeros.find? fun z => z ≤ c.toNat && c.toNat < z + 10) = some 0x30 :=
    List.find?_cons_of_pos hfirst
  unfold decimal?
  rw [hzero]
  rfl

lemma digitsAfter_of_isDigit (h : ∀ c ∈ s, c.isDigit = true) (afterDigit : Bool)
    (hdigit : afterDigit = true ∨ s ≠ []) :
    digitsAfter afterDigit s = some (s.map fun c => c.toNat - '0'.toNat, []) := by
  induction s generalizing afterDigit with
  | nil =>
    have hafter : afterDigit = true := hdigit.resolve_right fun hne => hne rfl
    rw [hafter]
    rfl
  | cons c rest ih =>
    have hrest := ih (fun d hd => h d (List.mem_cons_of_mem c hd)) true (.inl rfl)
    unfold digitsAfter
    rw [decimal?_of_isDigit (h c List.mem_cons_self), hrest]
    rfl

lemma positional_map (s : List Char) :
    positional (s.map fun c => c.toNat - '0'.toNat) = Nat.ofDigitChars 10 s 0 := by
  rw [positional, List.foldl_map, Nat.ofDigitChars_eq_foldl]

lemma isBlank_of_toNat (hlow : 14 ≤ c.toNat) (hhigh : c.toNat < 0x85) (hblank : c ≠ ' ') :
    isBlank c = false := by
  have hwide : (wideBlanks.any fun r => r.1 ≤ c.toNat && c.toNat ≤ r.2) = false := by
    rw [List.any_eq_false]
    intro r hr
    have hmin : ∀ r ∈ wideBlanks, 0x85 ≤ r.1 := by decide
    have hr := hmin r hr
    rw [Bool.and_eq_true, decide_eq_true_eq, decide_eq_true_eq]
    omega
  unfold isBlank
  rw [hwide, Bool.or_false, Bool.or_eq_false_iff]
  refine ⟨beq_eq_false_iff_ne.mpr hblank, ?_⟩
  rw [Bool.and_eq_false_iff, decide_eq_false_iff_not, decide_eq_false_iff_not]
  omega

lemma dropWhile_isBlank_eq_self (h : ∀ c ∈ s, isBlank c = false) : s.dropWhile isBlank = s := by
  cases s with
  | nil => rfl
  | cons c rest => exact List.dropWhile_cons_of_neg (by simp [h c List.mem_cons_self])

lemma trimBlanks_replicate_append (h : ∀ c ∈ s, isBlank c = false) (before after : Nat) :
    trimBlanks (List.replicate before ' ' ++ s ++ List.replicate after ' ') = s := by
  have hblank (n : Nat) : ∀ c ∈ List.replicate n ' ', isBlank c = true := by
    intro c hc
    rw [List.eq_of_mem_replicate hc]
    rfl
  have hreverse : ∀ c ∈ s.reverse, isBlank c = false := fun c hc => h c (List.mem_reverse.mp hc)
  unfold trimBlanks
  rw [List.append_assoc, List.dropWhile_append_of_pos (hblank before)]
  cases s with
  | nil =>
    rw [List.nil_append, List.dropWhile_eq_nil_iff.mpr (hblank after)]
    rfl
  | cons c rest =>
    have hc : ¬ isBlank c = true := by
      rw [h c List.mem_cons_self]
      exact Bool.false_ne_true
    rw [List.cons_append, List.dropWhile_cons_of_neg hc, ← List.cons_append, List.reverse_append,
      List.reverse_replicate, List.dropWhile_append_of_pos (hblank after),
      dropWhile_isBlank_eq_self hreverse, List.reverse_reverse]

lemma trimBlanks_eq_self (h : ∀ c ∈ s, isBlank c = false) : trimBlanks s = s := by
  have htrim := trimBlanks_replicate_append h 0 0
  rwa [List.replicate_zero, List.nil_append, List.append_nil] at htrim

lemma splitSign_of_isDigit (h : ∀ c ∈ s, c.isDigit = true) : splitSign s = (false, s) := by
  cases s with
  | nil => rfl
  | cons c rest =>
    have hdigit := toNat_of_isDigit (h c List.mem_cons_self)
    unfold splitSign
    split
    · rename_i heq
      obtain ⟨rfl, -⟩ := List.cons.inj heq
      exact absurd hdigit.1 (by decide)
    · rename_i heq
      obtain ⟨rfl, -⟩ := List.cons.inj heq
      exact absurd hdigit.1 (by decide)
    · rfl

lemma ofList_writeInteger (i : Int) : String.ofList (writeInteger i) = toString i := by
  cases i with
  | ofNat n => rfl
  | negSucc n =>
    have hneg : Int.negSucc n < 0 := Int.negSucc_lt_zero n
    unfold writeInteger
    rw [if_pos hneg, String.ofList_cons]
    rfl

lemma isDigit_of_mem_toDigits (n : Nat) : ∀ c ∈ Nat.toDigits 10 n, c.isDigit = true :=
  fun _ hc => Nat.isDigit_of_mem_toDigits (by decide) (by decide) hc

lemma isBlank_of_mem_writeInteger (i : Int) : ∀ c ∈ writeInteger i, isBlank c = false := by
  have hdigits : ∀ c ∈ Nat.toDigits 10 i.natAbs, isBlank c = false := by
    intro c hc
    obtain ⟨hlow, hhigh⟩ := toNat_of_isDigit (isDigit_of_mem_toDigits _ c hc)
    apply isBlank_of_toNat (by omega) (by omega)
    rintro rfl
    exact absurd hlow (by decide)
  intro c hc
  unfold writeInteger at hc
  by_cases hneg : i < 0
  · rw [if_pos hneg] at hc
    rcases List.mem_cons.mp hc with rfl | hc
    · decide
    · exact hdigits c hc
  · rw [if_neg hneg] at hc
    exact hdigits c hc

lemma splitSign_writeInteger (i : Int) :
    splitSign (writeInteger i) = (decide (i < 0), Nat.toDigits 10 i.natAbs) := by
  unfold writeInteger
  by_cases hneg : i < 0
  · rw [if_pos hneg, decide_eq_true hneg]
    rfl
  · rw [if_neg hneg, decide_eq_false hneg]
    exact splitSign_of_isDigit (isDigit_of_mem_toDigits _)

/-- The decimal form of an integer reads back as that integer. -/
theorem readInteger_writeInteger {i : Int} (h : Short i) : readInteger (writeInteger i) = .number i := by
  have hdigits := digitsAfter_of_isDigit (isDigit_of_mem_toDigits i.natAbs) false
    (.inr Nat.toDigits_ne_nil)
  have hvalue : positional ((Nat.toDigits 10 i.natAbs).map fun c => c.toNat - '0'.toNat) =
      i.natAbs := by
    rw [positional_map]
    exact Nat.ofDigitChars_toDigits (by decide) (by decide)
  unfold readInteger
  rw [trimBlanks_eq_self (isBlank_of_mem_writeInteger i), splitSign_writeInteger]
  dsimp only
  rw [hdigits]
  dsimp only
  rw [List.length_map, if_neg (Nat.not_lt.mpr h), hvalue]
  by_cases hneg : i < 0
  · rw [decide_eq_true hneg]
    simp only [List.isEmpty_nil, Bool.not_true, Bool.false_eq_true, if_false, if_true]
    congr 1
    omega
  · rw [decide_eq_false hneg]
    simp only [List.isEmpty_nil, Bool.not_true, Bool.false_eq_true, if_false]
    congr 1
    omega

/-! ### What is read -/

lemma lt_ten_of_decimal? {d : Nat} (h : decimal? c = some d) : d < 10 := by
  unfold decimal? at h
  obtain ⟨first, hfirst, rfl⟩ := Option.map_eq_some_iff.mp h
  have hrange := List.find?_some hfirst
  rw [Bool.and_eq_true, decide_eq_true_eq, decide_eq_true_eq] at hrange
  omega

lemma lt_ten_of_digitsAfter {afterDigit : Bool} {ds : List Nat} {rest : List Char}
    (h : digitsAfter afterDigit s = some (ds, rest)) : ∀ d ∈ ds, d < 10 := by
  induction s generalizing afterDigit ds with
  | nil =>
    unfold digitsAfter at h
    split at h
    · cases h
      exact List.forall_mem_nil _
    · cases h
  | cons c more ih =>
    unfold digitsAfter at h
    split at h
    · rename_i d hd
      obtain ⟨⟨ds', rest'⟩, hmore, heq⟩ := Option.map_eq_some_iff.mp h
      cases heq
      exact List.forall_mem_cons.mpr ⟨lt_ten_of_decimal? hd, ih hmore⟩
    · split at h
      · cases h
      · split at h
        · exact ih h
        · cases h
          exact List.forall_mem_nil _

lemma foldl_digits_lt {ds : List Nat} (h : ∀ d ∈ ds, d < 10) (n : Nat) :
    ds.foldl (fun n d => 10 * n + d) n < (n + 1) * 10 ^ ds.length := by
  induction ds generalizing n with
  | nil => simp
  | cons d rest ih =>
    rw [List.forall_mem_cons] at h
    calc rest.foldl (fun n d => 10 * n + d) (10 * n + d)
        < (10 * n + d + 1) * 10 ^ rest.length := ih h.2 _
      _ ≤ ((n + 1) * 10) * 10 ^ rest.length := Nat.mul_le_mul_right _ (by omega)
      _ = (n + 1) * 10 ^ (rest.length + 1) := by rw [Nat.mul_assoc, Nat.pow_succ']

/-- No integer is read that is too long to be written. -/
theorem short_of_readInteger {i : Int} (h : readInteger s = .number i) : Short i := by
  unfold readInteger at h
  dsimp only at h
  split at h
  · cases h
  · rename_i ds rest hdigits
    split at h
    · cases h
    · rename_i hlength
      split at h
      · cases h
      · have hvalue : i.natAbs = positional ds := by
          rw [← IntegerText.number.inj h]
          split
          · rw [Int.natAbs_neg, Int.natAbs_natCast]
          · exact Int.natAbs_natCast _
        have hlt : positional ds < 10 ^ ds.length := by
          have hfold := foldl_digits_lt (lt_ten_of_digitsAfter hdigits) 0
          rwa [Nat.zero_add, Nat.one_mul] at hfold
        -- Again for any limit, so that the power is not computed.
        have hmono (limit : Nat) (hle : ds.length ≤ limit) : 10 ^ ds.length ≤ Nat.pow 10 limit :=
          Nat.pow_le_pow_right (by decide) hle
        rw [short_iff, hvalue]
        exact Nat.lt_of_lt_of_le hlt (hmono _ (Nat.not_lt.mp hlength))

end Text

namespace Value

lemma integerText_of_short {i : Int} (h : Text.Short i) :
    integerText i = .ok (String.ofList (Text.writeInteger i)) := by
  rw [integerText, if_neg (Nat.not_le.mpr (Text.short_iff.mp h))]

lemma integerText_of_not_short {i : Int} (h : ¬ Text.Short i) :
    integerText i = .error (.tooManyDigits none) := by
  rw [integerText, if_pos (Nat.not_lt.mp (mt Text.short_iff.mpr h))]

lemma short_of_integerText {i : Int} {s : String} (h : integerText i = .ok s) : Text.Short i := by
  unfold integerText at h
  split at h
  · cases h
  · rename_i hlt
    exact Text.short_iff.mpr (Nat.not_le.mp hlt)

lemma toInteger_of_integerText {i : Int} {s : String} (h : integerText i = .ok s) :
    (text s).toInteger = .ok i := by
  have hshort := short_of_integerText h
  rw [integerText_of_short hshort] at h
  obtain rfl := Except.ok.inj h
  have htext (s : String) : (text s).toInteger = spelled (.text s) s.toList := rfl
  rw [htext, spelled, String.toList_ofList, Text.readInteger_writeInteger hshort]

end Value

end TickWalk
