import TickWalk.Bitmap.Search
import TickWalk.Proofs.Action
import TickWalk.Proofs.Course
import Mathlib.Tactic.Ring
import Mathlib.Tactic.Linarith

/-!
# One-word searches

The search inside one word answers with the nearest compressed tick whose bit is set, or with the
last one of the word when there is none. `answer_spec` says so for every word that may be read, and
`nearest_answer` for the words of a bitmap: the answer is the nearest tick that is either in the
bitmap or at the edge of a word.
-/

namespace TickWalk

/-- The last compressed tick of its word in the direction of a search. -/
def Direction.isEdge : Direction → Int → Bool
  | inclusive, c => c % wordSize = 0
  | exclusive, c => c % wordSize = wordSize - 1

namespace Bitmap

lemma search_action {σ : Type} (read : Int → Action σ Int) (d : Direction) (spacing tick : Value) :
    search read d spacing tick = (do
      let probe ← Action.lift (Probe.ofValues d spacing tick)
      let word ← read probe.word
      pure (probe.answer word)) := rfl

lemma search_at_hand {spacing tick : Int} {d : Direction} {probe : Probe}
    (h : Probe.at? d spacing tick = .ok probe) (word : Int → Int) :
    search (fun number => (.ok (word number) : Except Failure Int)) d (.int spacing) (.int tick) =
      .ok (probe.answer (word probe.word)) := by
  change (Probe.ofValues d (.int spacing) (.int tick) >>= _) = _
  rw [Probe.ofValues_int, h]
  rfl

/-- Whether the bit of a compressed tick is set in the word that should hold it. -/
def marks (word : Int) (c : Int) : Bool := (low256 word).testBit (position c).bit

lemma testBit_low256 (n : Nat) {b : Nat} (h : b < wordSize) :
    (low256 n).testBit b = n.testBit b := by
  have hlow : low256 n = n % 2 ^ 256 := by
    rw [low256, ← Int.natCast_emod, Int.toNat_natCast]
    rfl
  have hb : b < 256 := h
  rw [hlow, Nat.testBit_mod_two_pow]
  simp [hb]

lemma testBit_of_lt_trailingZeros {n b : Nat} (h : b < trailingZeros n) : n.testBit b = false := by
  induction n using Nat.strongRecOn generalizing b with
  | _ n ih =>
    rw [trailingZeros] at h
    split at h
    · omega
    · split at h
      · omega
      · cases b with
        | zero =>
          have heven : n % 2 = 0 := by omega
          rw [Nat.testBit_zero, heven]
          rfl
        | succ b =>
          rw [Nat.testBit_succ]
          exact ih (n / 2) (by omega) (by omega)

/-- The set bit of a number that a search meets first. -/
def firstSet : Direction → Nat → Nat
  | .inclusive, n => n.log2
  | .exclusive, n => trailingZeros n

lemma testBit_firstSet (d : Direction) {n : Nat} (h : n ≠ 0) : n.testBit (firstSet d n) = true := by
  cases d with
  | inclusive => exact Nat.testBit_log2 h
  | exclusive => exact testBit_trailingZeros h

lemma testBit_of_precedes_firstSet {d : Direction} {n b : Nat}
    (h : d.precedes b (firstSet d n) = true) : n.testBit b = false := by
  cases d with
  | inclusive =>
    have hlt : n.log2 < b := by simpa [Direction.precedes, firstSet] using h
    exact Nat.testBit_lt_two_pow
      (Nat.lt_log2_self.trans_le (Nat.pow_le_pow_right (by decide) hlt))
  | exclusive =>
    have hlt : b < trailingZeros n := by simpa [Direction.precedes, firstSet] using h
    exact testBit_of_lt_trailingZeros hlt

/-- The bit of a word at which a search ends when no bit is set. -/
def lastBit : Direction → Nat
  | .inclusive => 0
  | .exclusive => wordSize - 1

namespace Probe

/-- The compressed ticks that a search decides about: those of its word from the first one on. -/
def Covers (p : Probe) (c : Int) : Prop :=
  (position c).word = p.word ∧ p.direction.precedes c p.first = false

lemma position_compressedAt (p : Probe) {b : Nat} (h : b < wordSize) :
    position (p.compressedAt b) = ⟨p.word, b⟩ := by
  simp only [position, compressedAt, word, bit, wordSize, Place.mk.injEq] at h ⊢
  omega

lemma precedes_bits {p : Probe} {c k : Int} (hc : (position c).word = p.word)
    (hk : (position k).word = p.word) (d : Direction) :
    d.precedes (position c).bit (position k).bit = d.precedes c k := by
  simp only [position, word, wordSize] at hc hk ⊢
  cases d <;> simp only [Direction.precedes, decide_eq_decide] <;> omega

lemma testBit_visible (p : Probe) (w : Int) (b : Nat) :
    (p.visible w).testBit b = (!p.direction.precedes b p.bit && (low256 w).testBit b) := by
  unfold visible
  cases p.direction with
  | inclusive =>
    have hside : decide (b < p.bit + 1) = !Direction.inclusive.precedes b p.bit := by
      rw [Direction.precedes, ← decide_not, decide_eq_decide]
      omega
    change (low256 w % 2 ^ (p.bit + 1)).testBit b = _
    rw [Nat.testBit_mod_two_pow, hside]
  | exclusive =>
    have hside : decide (p.bit ≤ b) = !Direction.exclusive.precedes b p.bit := by
      rw [Direction.precedes, ← decide_not, decide_eq_decide]
      omega
    rw [Nat.testBit_shiftLeft, Nat.testBit_shiftRight, ← hside]
    by_cases h : p.bit ≤ b
    · rw [Nat.add_sub_of_le h]
    · rw [decide_eq_false h, Bool.false_and, Bool.false_and]

lemma marks_of_covers {p : Probe} {c : Int} (h : p.Covers c) (w : Int) :
    marks w c = (p.visible w).testBit (position c).bit := by
  have hside : p.direction.precedes (position c).bit p.bit = false := by
    unfold bit
    rw [precedes_bits h.1 rfl, h.2]
  rw [testBit_visible, hside, marks]
  rfl

lemma covers_compressedAt {p : Probe} {b : Nat} (hb : b < wordSize)
    (hside : p.direction.precedes b p.bit = false) : p.Covers (p.compressedAt b) := by
  have hpos := position_compressedAt p hb
  refine ⟨by rw [hpos], ?_⟩
  rw [← precedes_bits (p := p) (by rw [hpos]) rfl, hpos]
  exact hside

lemma covers_lastBit (p : Probe) : p.Covers (p.compressedAt (lastBit p.direction)) := by
  have hbit : p.bit < wordSize := position_bit_lt p.first
  cases hd : p.direction with
  | inclusive =>
    apply covers_compressedAt (by decide)
    simp [hd, Direction.precedes, lastBit]
  | exclusive =>
    apply covers_compressedAt (by decide)
    simp only [hd, Direction.precedes, lastBit, decide_eq_false_iff_not]
    omega

lemma isEdge_lastBit (p : Probe) : p.direction.isEdge (p.compressedAt (lastBit p.direction)) = true := by
  have hpos (b : Nat) (hb : b < wordSize) := congrArg Place.bit (position_compressedAt p hb)
  cases hd : p.direction with
  | inclusive =>
    have h0 := hpos 0 (by decide)
    simp only [position] at h0
    unfold lastBit
    simp only [Direction.isEdge, decide_eq_true_eq]
    simp only [wordSize] at h0 ⊢
    omega
  | exclusive =>
    have hlast := hpos (wordSize - 1) (by decide)
    simp only [position] at hlast
    unfold lastBit
    simp only [Direction.isEdge, decide_eq_true_eq]
    simp only [wordSize] at hlast ⊢
    omega

lemma answer_eq (p : Probe) (w : Int) :
    p.answer w =
      if p.visible w = 0 then (false, p.compressedAt (lastBit p.direction) * p.spacing)
      else (true, p.compressedAt (firstSet p.direction (p.visible w)) * p.spacing) := by
  unfold answer
  cases p.direction <;> rfl

lemma lt_wordSize_of_visible {p : Probe} {w : Int} {b : Nat}
    (h : (p.visible w).testBit b = true) : b < wordSize := by
  rw [testBit_visible, Bool.and_eq_true] at h
  by_contra hb
  have hexp : 256 ≤ b := Nat.le_of_not_lt hb
  have hlow : low256 w < 2 ^ b := (low256_lt w).trans_le (Nat.pow_le_pow_right (by decide) hexp)
  rw [Nat.testBit_lt_two_pow hlow] at h
  exact absurd h.2 Bool.false_ne_true

/-- The answer of a search, for any word: a covered compressed tick that is the last of its word
unless its bit is set, with no set bit before it. -/
theorem answer_spec (p : Probe) (w : Int) :
    ∃ c, p.answer w = (marks w c, c * p.spacing) ∧ p.Covers c ∧
      (marks w c = false → p.direction.isEdge c = true) ∧
      ∀ k, p.Covers k → p.direction.precedes k c = true → marks w k = false := by
  rw [answer_eq]
  by_cases hseen : p.visible w = 0
  · have hnone (k : Int) (hk : p.Covers k) : marks w k = false := by
      rw [marks_of_covers hk, hseen, Nat.zero_testBit]
    refine ⟨p.compressedAt (lastBit p.direction), ?_, p.covers_lastBit, fun _ => p.isEdge_lastBit,
      fun k hk _ => hnone k hk⟩
    rw [if_pos hseen, hnone _ p.covers_lastBit]
  · have hset := testBit_firstSet p.direction hseen
    have hlt := lt_wordSize_of_visible hset
    have hpos := position_compressedAt p hlt
    have hcov : p.Covers (p.compressedAt (firstSet p.direction (p.visible w))) := by
      rw [testBit_visible, Bool.and_eq_true, Bool.not_eq_true'] at hset
      exact covers_compressedAt hlt hset.1
    have hmark : marks w (p.compressedAt (firstSet p.direction (p.visible w))) = true := by
      rw [marks_of_covers hcov, hpos, hset]
    refine ⟨p.compressedAt (firstSet p.direction (p.visible w)), ?_, hcov, ?_, ?_⟩
    · rw [if_neg hseen, hmark]
    · intro h
      rw [hmark] at h
      exact absurd h.symm Bool.false_ne_true
    · intro k hk hbefore
      rw [← precedes_bits hk.1 hcov.1, hpos] at hbefore
      rw [marks_of_covers hk]
      exact testBit_of_precedes_firstSet hbefore

/-- What lies between a covered compressed tick and the first one searched is covered, and no edge
of a word is among it. -/
lemma covers_of_precedes {p : Probe} {c k : Int} (hc : p.Covers c)
    (hk : p.direction.precedes k c = true) (hfirst : p.direction.precedes k p.first = false) :
    p.Covers k ∧ p.direction.isEdge k = false := by
  have hword := hc.1
  simp only [word, position] at hword
  constructor
  · refine ⟨?_, hfirst⟩
    simp only [word, position]
    cases hd : p.direction <;>
      simp only [hd, Direction.precedes, decide_eq_true_eq, decide_eq_false_iff_not] at hk hfirst <;>
      simp only [wordSize] at hword ⊢ <;> omega
  · cases hd : p.direction <;>
      simp only [hd, Direction.precedes, Direction.isEdge, decide_eq_true_eq,
        decide_eq_false_iff_not] at hk hfirst ⊢ <;>
      simp only [wordSize] at hword ⊢ <;> omega

end Probe

end Bitmap

/-- Whether the bit of a compressed tick is set in a bitmap. -/
def Words.has (words : Words) (c : Int) : Bool :=
  (words.get (Bitmap.position c).word).testBit (Bitmap.position c).bit

lemma Words.has_nil (c : Int) : Words.has [] c = false := by
  simp [Words.has]

lemma Words.has_mark (words : Words) (c k : Int) :
    (words.mark (Bitmap.position c)).has k = (decide (k = c) || words.has k) := by
  unfold Words.has
  rw [Words.get_mark]
  by_cases hword : (Bitmap.position k).word = (Bitmap.position c).word
  · have hbit : (Bitmap.position c).bit = (Bitmap.position k).bit ↔ k = c := by
      simp only [Bitmap.position, wordSize] at hword ⊢
      omega
    rw [if_pos hword, Nat.testBit_or, Nat.one_shiftLeft, Nat.testBit_two_pow, hword, Bool.or_comm,
      decide_eq_decide.mpr hbit]
  · have hne : k ≠ c := fun h => hword (by rw [h])
    simp [hword, hne]

namespace Bitmap

lemma marks_get (words : Words) (c : Int) : marks (words.get (position c).word) c = words.has c :=
  testBit_low256 _ (position_bit_lt c)

/-- What a search may answer with: the multiples of the spacing that are occupied or at the edge of a
word. -/
def isLandmark (d : Direction) (spacing : Int) (occupied : Int → Bool) (tick : Int) : Bool :=
  decide (tick % spacing = 0) && (occupied tick || d.isEdge (tick / spacing))

variable {spacing : Int}

lemma isLandmark_mul (hs : 0 < spacing) (d : Direction) (occupied : Int → Bool) (c : Int) :
    isLandmark d spacing occupied (c * spacing) = (occupied (c * spacing) || d.isEdge c) := by
  simp [isLandmark, Int.mul_ediv_cancel c hs.ne']

lemma precedes_mul (hs : 0 < spacing) (d : Direction) (j k : Int) :
    d.precedes (j * spacing) (k * spacing) = d.precedes j k := by
  cases d <;> simp [Direction.precedes, hs]

def firstCompressed (d : Direction) (spacing cursor : Int) : Int :=
  match d with
  | .inclusive => cursor / spacing
  | .exclusive => cursor / spacing + 1

lemma at?_of_pos (hs : 0 < spacing) (d : Direction) (cursor : Int) :
    Probe.at? d spacing cursor = .ok ⟨d, spacing, firstCompressed d spacing cursor⟩ := by
  unfold Probe.at? compress firstCompressed
  rw [if_neg hs.ne', Int.fdiv_eq_ediv_of_nonneg _ hs.le]
  rfl

lemma reaches_mul (hs : 0 < spacing) (d : Direction) (cursor k : Int) :
    d.reaches cursor (k * spacing) = !d.precedes k (firstCompressed d spacing cursor) := by
  cases d with
  | inclusive =>
    have hle : k ≤ cursor / spacing ↔ k * spacing ≤ cursor := Int.le_ediv_iff_mul_le hs
    rw [Bool.eq_iff_iff]
    simp only [Direction.reaches, Direction.precedes, decide_eq_true_eq, Bool.not_eq_true',
      decide_eq_false_iff_not, ← hle]
    simp only [firstCompressed]
    omega
  | exclusive =>
    have hlt : cursor / spacing < k ↔ cursor < k * spacing := Int.ediv_lt_iff_lt_mul hs
    rw [Bool.eq_iff_iff]
    simp only [Direction.reaches, Direction.precedes, decide_eq_true_eq, Bool.not_eq_true',
      decide_eq_false_iff_not, ← hlt]
    simp only [firstCompressed]
    omega

/-- Reading the word of a bitmap that holds the occupied ticks, a search answers with the nearest
landmark and says whether it is occupied. -/
theorem nearest_answer {words : Words} {occupied : Int → Bool} (hs : 0 < spacing)
    (hwords : ∀ c, words.has c = occupied (c * spacing)) (d : Direction) (cursor : Int) :
    ∃ p tick, Probe.at? d spacing cursor = .ok p ∧
      p.answer (words.get p.word) = (occupied tick, tick) ∧
      d.Nearest (isLandmark d spacing occupied) cursor tick := by
  set p : Probe := ⟨d, spacing, firstCompressed d spacing cursor⟩ with hp
  obtain ⟨c, hanswer, hcov, hedge, hfirst⟩ := p.answer_spec (words.get p.word)
  have hmarks (k : Int) (hk : p.Covers k) : marks (words.get p.word) k = occupied (k * spacing) := by
    rw [← hk.1, marks_get, hwords]
  rw [hmarks c hcov] at hanswer hedge
  refine ⟨p, c * spacing, at?_of_pos hs d cursor, hanswer, ?_, ?_, ?_⟩
  · rw [reaches_mul hs, Bool.not_eq_true']
    exact hcov.2
  · rw [isLandmark_mul hs]
    cases hocc : occupied (c * spacing) with
    | true => rfl
    | false => exact hedge hocc
  · intro u hreach hland
    have hmul : u = u / spacing * spacing := by
      rw [isLandmark, Bool.and_eq_true, decide_eq_true_eq] at hland
      exact (Int.ediv_mul_cancel (Int.dvd_of_emod_eq_zero hland.1)).symm
    rw [hmul] at hreach hland ⊢
    rw [reaches_mul hs, Bool.not_eq_true'] at hreach
    rw [isLandmark_mul hs] at hland
    rw [precedes_mul hs]
    -- A landmark before the answer would be a set bit or an edge inside the searched word.
    by_contra hbefore
    rw [Bool.not_eq_false] at hbefore
    obtain ⟨hcovk, hnoedge⟩ := Probe.covers_of_precedes hcov hbefore hreach
    rw [← hmarks _ hcovk, hfirst _ hcovk hbefore, hnoedge] at hland
    exact Bool.false_ne_true hland

end Bitmap

end TickWalk
