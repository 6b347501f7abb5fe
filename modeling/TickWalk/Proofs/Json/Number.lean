import TickWalk.Proofs.Decimal.Reading
import TickWalk.Proofs.Json.Grammar

/-!
# Written integers as numbers of the format

The plain decimal form of an integer is a number of the grammar, and the reader takes all of its digits
and nothing else, provided that what follows cannot belong to a number.
-/

namespace TickWalk.Json

open Text

variable {c : Char} {s rest ds : List Char}

/-- What may follow a value: nothing, a comma, a closing mark or a blank. -/
def Stops (rest : List Char) : Prop :=
  ∀ c ∈ rest.head?, c = ',' ∨ c = ']' ∨ c = '\x7d' ∨ isBlank c = true

lemma isBlank_iff : isBlank c = true ↔ c = ' ' ∨ c = '\n' ∨ c = '\r' ∨ c = '\t' := by
  simp only [isBlank, Bool.or_eq_true, beq_iff_eq, or_assoc]

lemma Stops.head (h : Stops (c :: rest)) :
    c.isDigit = false ∧ c ≠ '.' ∧ c ≠ 'e' ∧ c ≠ 'E' := by
  have hc := h c rfl
  rw [isBlank_iff] at hc
  rcases hc with rfl | rfl | rfl | rfl | rfl | rfl | rfl <;> decide

lemma toDigits_of_head (n : Nat) (h : (Nat.toDigits 10 n).head? = some '0') :
    Nat.toDigits 10 n = ['0'] := by
  have hzero : n = 0 := by
    induction n using Nat.strongRecOn with
    | _ n ih =>
      by_cases hsmall : n < 10
      · rw [Nat.toDigits_of_lt_base hsmall] at h
        have hdigits : ∀ d < 10, Nat.digitChar d = '0' → d = 0 := by decide
        exact hdigits n hsmall (Option.some.inj h)
      · rw [Nat.toDigits_of_base_le (by decide) (Nat.not_lt.mp hsmall)] at h
        have hhead : (Nat.toDigits 10 (n / 10)).head? = some '0' := by
          obtain ⟨c, s, hs⟩ :=
            List.exists_cons_of_ne_nil (Nat.toDigits_ne_nil (n := n / 10) (b := 10))
          rw [hs] at h ⊢
          exact h
        have hdiv := ih (n / 10) (by omega) hhead
        omega
  rw [hzero]
  exact Nat.toDigits_of_lt_base (by decide)

lemma whole_toDigits (n : Nat) : Whole (Nat.toDigits 10 n) :=
  ⟨⟨Nat.toDigits_ne_nil, isDigit_of_mem_toDigits n⟩, toDigits_of_head n⟩

lemma number_writeInteger (i : Int) : Number (writeInteger i) := by
  have hwhole := whole_toDigits i.natAbs
  unfold writeInteger
  dsimp only
  split
  · have h := Number.number (.inr rfl) hwhole .absent .absent
    rwa [List.append_nil, List.append_nil] at h
  · have h := Number.number (.inl rfl) hwhole .absent .absent
    rwa [List.append_nil, List.append_nil] at h

/-! ### Reading -/

lemma wholeDigits?_append (h : Whole ds) (hrest : Stops rest) :
    wholeDigits? (ds ++ rest) = some (ds, rest) := by
  obtain ⟨⟨hne, hdigits⟩, hzero⟩ := h
  have htake : rest.takeWhile Char.isDigit = [] ∧ rest.dropWhile Char.isDigit = rest := by
    cases rest with
    | nil => exact ⟨rfl, rfl⟩
    | cons c rest =>
      rw [List.takeWhile_cons, List.dropWhile_cons, hrest.head.1]
      exact ⟨rfl, rfl⟩
  have hread : digits? (ds ++ rest) = some (ds, rest) := by
    unfold digits?
    rw [List.takeWhile_append_of_pos hdigits, List.dropWhile_append_of_pos hdigits, htake.1,
      htake.2, List.append_nil]
    exact if_neg (mt List.isEmpty_iff.mp hne)
  have hplain : ¬ (decide (ds.head? = some '0') && decide (ds.length ≠ 1)) = true := by
    rw [Bool.and_eq_true, decide_eq_true_eq, decide_eq_true_eq]
    rintro ⟨hhead, hlength⟩
    rw [hzero hhead] at hlength
    exact hlength rfl
  unfold wholeDigits?
  rw [hread]
  exact if_neg hplain

lemma fraction?_of_stops (h : Stops rest) : fraction? rest = some ([], rest) := by
  unfold fraction?
  split
  · exact absurd rfl h.head.2.1
  · rfl

lemma exponent?_of_stops (h : Stops rest) : exponent? rest = some ([], rest) := by
  cases rest with
  | nil => rfl
  | cons c rest =>
    obtain ⟨-, -, hsmall, hlarge⟩ := h.head
    have hplain : ¬ (decide (c = 'e') || decide (c = 'E')) = true := by
      rw [Bool.or_eq_true, decide_eq_true_eq, decide_eq_true_eq]
      exact not_or.mpr ⟨hsmall, hlarge⟩
    exact if_neg hplain

lemma unsigned?_toDigits (negative : Bool) (n : Nat) (h : Stops rest) :
    unsigned? negative (Nat.toDigits 10 n ++ rest) =
      some (.int (if negative then -(n : Int) else n), rest) := by
  unfold unsigned?
  rw [wholeDigits?_append (whole_toDigits n) h]
  change (fraction? rest >>= fun p => _) = _
  rw [fraction?_of_stops h]
  change (exponent? rest >>= fun p => _) = _
  rw [exponent?_of_stops h]
  change some (Value.int (if negative then
    -(Decimal.natOfDigits (Nat.toDigits 10 n) : Int) else _), rest) = _
  rw [Decimal.natOfDigits_toDigits]

/-- The characters that the decimal form of an integer may start with. -/
def numberStarts : List Char := ['-', '0', '1', '2', '3', '4', '5', '6', '7', '8', '9']

lemma writeInteger_cons (i : Int) : ∃ c s, writeInteger i = c :: s ∧ c ∈ numberStarts := by
  unfold writeInteger
  dsimp only
  split
  · exact ⟨_, _, rfl, List.mem_cons_self⟩
  · obtain ⟨c, s, hs⟩ := List.exists_cons_of_ne_nil (Nat.toDigits_ne_nil (n := i.natAbs) (b := 10))
    refine ⟨c, s, hs, List.mem_cons_of_mem _ ?_⟩
    obtain ⟨hlow, hhigh⟩ := toNat_of_isDigit
      (isDigit_of_mem_toDigits i.natAbs c (hs ▸ List.mem_cons_self))
    have hcode : c.toNat ∈ List.range' 48 10 := List.mem_range'_1.mpr ⟨hlow, by omega⟩
    have hdigits : numberStarts.tail = (List.range' 48 10).map Char.ofNat := by decide
    change c ∈ numberStarts.tail
    rw [hdigits, List.mem_map]
    exact ⟨c.toNat, hcode, Char.ofNat_toNat c⟩

lemma readValue_of_mem_numberStarts (hc : c ∈ numberStarts) (fuel : Nat) (s : List Char) :
    readValue (fuel + 1) (c :: s) = number? (c :: s) := by
  simp only [numberStarts, List.mem_cons, List.not_mem_nil, or_false] at hc
  rcases hc with rfl | rfl | rfl | rfl | rfl | rfl | rfl | rfl | rfl | rfl | rfl <;> rfl

/-- An integer reads back from its decimal form, up to what follows. -/
theorem number?_writeInteger (i : Int) (h : Stops rest) :
    number? (writeInteger i ++ rest) = some (.int i, rest) := by
  obtain ⟨c, ds, hds⟩ := List.exists_cons_of_ne_nil (Nat.toDigits_ne_nil (n := i.natAbs) (b := 10))
  have hdigit : c.isDigit = true := isDigit_of_mem_toDigits i.natAbs c (hds ▸ List.mem_cons_self)
  unfold writeInteger
  dsimp only
  split
  · have hread : number? ('-' :: Nat.toDigits 10 i.natAbs ++ rest) =
        unsigned? true (Nat.toDigits 10 i.natAbs ++ rest) := by
      rw [hds]
      refine number?.eq_2 _ ?_
      rintro s heq
      obtain ⟨rfl, -⟩ := List.cons.inj heq
      exact absurd hdigit (by decide)
    rw [hread, unsigned?_toDigits true _ h]
    simp only [if_true, Option.some.injEq, Prod.mk.injEq, Value.int.injEq, and_true]
    omega
  · have hread : number? (Nat.toDigits 10 i.natAbs ++ rest) =
        unsigned? false (Nat.toDigits 10 i.natAbs ++ rest) := by
      rw [hds]
      refine number?.eq_3 _ ?_ ?_
      · rintro s heq
        obtain ⟨rfl, -⟩ := List.cons.inj heq
        exact absurd hdigit (by decide)
      · rintro s heq
        obtain ⟨rfl, -⟩ := List.cons.inj heq
        exact absurd hdigit (by decide)
    rw [hread, unsigned?_toDigits false _ h]
    simp only [Bool.false_eq_true, if_false, Option.some.injEq, Prod.mk.injEq, Value.int.injEq,
      and_true]
    omega

end TickWalk.Json
