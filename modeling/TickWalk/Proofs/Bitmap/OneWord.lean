import TickWalk.Proofs.Bitmap.Search
import Mathlib.Order.Bounds.Basic

/-!
# Searches are exact inside one word

A search reads one word, once. Whatever the size and the sign of that word, its low 256 bits in two's
complement decide the answer: the first set bit on the searched side, or the end of the word when no
bit is set there. The tick of the answer is therefore never on the wrong side of the given one.
-/

namespace TickWalk.Bitmap

/-- The compressed ticks on the searched side of `c`, and in its word, whose bits are set in `word`. -/
def hits (d : Direction) (word c : Int) : Set Int :=
  {k | (match d with
      | .inclusive => k ≤ c
      | .exclusive => c ≤ k) ∧
    k / 256 = c / 256 ∧ (BitVec.ofInt 256 word).getLsbD (k % 256).toNat = true}

/-- The member of a set that a search meets first. -/
def IsFirst : Direction → Set Int → Int → Prop
  | .inclusive => IsGreatest
  | .exclusive => IsLeast

/-- The compressed tick at which a search that begins at `c` leaves the word. -/
def wordEnd : Direction → Int → Int
  | .inclusive, c => c / 256 * 256
  | .exclusive, c => c / 256 * 256 + 255

inductive Answers (d : Direction) (spacing c word : Int) : Bool × Int → Prop
  | hit {k : Int} (h : IsFirst d (hits d word c) k) : Answers d spacing c word (true, k * spacing)
  | none (h : hits d word c = ∅) : Answers d spacing c word (false, wordEnd d c * spacing)

variable {d : Direction} {word c k spacing : Int}

lemma getLsbD_ofInt (word : Int) (b : Nat) :
    (BitVec.ofInt 256 word).getLsbD b = (low256 word).testBit b := by
  rw [← BitVec.testBit_toNat, BitVec.toNat_ofInt]
  rfl

lemma mem_hits_iff {p : Probe} :
    k ∈ hits p.direction word p.first ↔ p.Covers k ∧ marks word k = true := by
  obtain ⟨d, spacing, first⟩ := p
  unfold hits Probe.Covers marks Probe.word position wordSize
  rw [Set.mem_ofPred_eq, getLsbD_ofInt]
  cases d with
  | inclusive =>
    simp only [Direction.precedes, decide_eq_false_iff_not, not_lt]
    tauto
  | exclusive =>
    simp only [Direction.precedes, decide_eq_false_iff_not, not_lt]
    tauto

lemma isFirst_iff {s : Set Int} :
    IsFirst d s k ↔ k ∈ s ∧ ∀ j ∈ s, d.precedes j k = false := by
  cases d with
  | inclusive => simp [IsFirst, IsGreatest, upperBounds, Direction.precedes]
  | exclusive => simp [IsFirst, IsLeast, lowerBounds, Direction.precedes]

lemma eq_wordEnd {p : Probe} (hk : p.Covers k) (hedge : p.direction.isEdge k = true) :
    k = wordEnd p.direction p.first := by
  have hword := hk.1
  simp only [Probe.word, position, wordSize] at hword
  cases hd : p.direction with
  | inclusive =>
    rw [hd] at hedge
    simp only [Direction.isEdge, decide_eq_true_eq] at hedge
    simp only [wordEnd, wordSize] at hedge ⊢
    omega
  | exclusive =>
    rw [hd] at hedge
    simp only [Direction.isEdge, decide_eq_true_eq] at hedge
    simp only [wordEnd, wordSize] at hedge ⊢
    omega

lemma not_precedes_wordEnd {p : Probe} (hk : p.Covers k) :
    p.direction.precedes (wordEnd p.direction p.first) k = false := by
  have hword := hk.1
  simp only [Probe.word, position, wordSize] at hword
  cases hd : p.direction with
  | inclusive =>
    simp only [Direction.precedes, decide_eq_false_iff_not]
    simp only [wordEnd]
    omega
  | exclusive =>
    simp only [Direction.precedes, decide_eq_false_iff_not]
    simp only [wordEnd]
    omega

lemma answers_answer (p : Probe) (word : Int) :
    Answers p.direction p.spacing p.first word (p.answer word) := by
  obtain ⟨k, hanswer, hcovers, hedge, hfirst⟩ := p.answer_spec word
  rw [hanswer]
  cases hmarks : marks word k with
  | true =>
    apply Answers.hit
    refine isFirst_iff.mpr ⟨mem_hits_iff.mpr ⟨hcovers, hmarks⟩, fun j hj => ?_⟩
    obtain ⟨hcoversj, hmarksj⟩ := mem_hits_iff.mp hj
    -- A hit before the answer would be a mark that the search has passed.
    by_contra hbefore
    rw [hfirst j hcoversj (by simpa using hbefore)] at hmarksj
    exact Bool.false_ne_true hmarksj
  | false =>
    have hend := eq_wordEnd hcovers (hedge hmarks)
    rw [hend]
    apply Answers.none
    rw [Set.eq_empty_iff_forall_notMem]
    intro j hj
    obtain ⟨hcoversj, hmarksj⟩ := mem_hits_iff.mp hj
    have hplace := p.direction.precedes_or_eq_or_precedes j k
    rw [hend, not_precedes_wordEnd hcoversj, ← hend] at hplace
    rcases hplace with hbefore | rfl | habsurd
    · rw [hfirst j hcoversj hbefore] at hmarksj
      exact Bool.false_ne_true hmarksj
    · exact Bool.false_ne_true (hmarks.symm.trans hmarksj)
    · exact Bool.false_ne_true habsurd

lemma reaches_answer (hs : 0 < spacing) (d : Direction) (tick word : Int) :
    d.reaches tick ((Probe.mk d spacing (firstCompressed d spacing tick)).answer word).2 = true := by
  obtain ⟨k, hanswer, hcovers, -⟩ :=
    (Probe.mk d spacing (firstCompressed d spacing tick)).answer_spec word
  rw [hanswer, reaches_mul hs, hcovers.2]
  rfl

/-- A search is one read and an exact answer from the word that was read: it reads the word that holds
the compressed tick, or the one after it for an upward search, and what it answers is decided by the low
256 bits of that word, on the searched side of the tick. -/
theorem search_exact {σ : Type} (read : Int → Action σ Int) (hs : 0 < spacing) (d : Direction)
    (tick : Int) :
    ∃ answer : Int → Bool × Int,
      search read d (.int spacing) (.int tick) = (do
        let word ← read (firstCompressed d spacing tick / 256)
        pure (answer word)) ∧
      ∀ word, Answers d spacing (firstCompressed d spacing tick) word (answer word) ∧
        d.reaches tick (answer word).2 = true := by
  set probe : Probe := ⟨d, spacing, firstCompressed d spacing tick⟩ with hprobe
  refine ⟨probe.answer, ?_, fun word => ⟨answers_answer probe word, reaches_answer hs d tick word⟩⟩
  rw [search_action, Probe.ofValues_int, at?_of_pos hs, Action.lift_ok_bind]
  rfl

/-- An upward search from the last tick of a word reads the next word, once, and passes over the two
lowest bits of a negative word. -/
theorem search_exact_into_next_word :
    let read (number : Int) : Action (List Int) Int := do
      let seen ← Action.get
      Action.set (number :: seen)
      pure (-4)
    (0 : Int) < 10 ∧
      (search read .exclusive (.int 10) (.int (-2570))).run [] = ⟨.ok (true, -2540), [-1], []⟩ := by
  intro read
  have hs : (0 : Int) < 10 := by decide
  obtain ⟨answer, hsearch, hanswer⟩ := search_exact read hs .exclusive (-2570)
  have hfirst : firstCompressed .exclusive 10 (-2570) = -256 := rfl
  rw [hfirst] at hsearch hanswer
  have hfound : answer (-4) = (true, -2540) := by
    have hset : (-254 : Int) ∈ hits .exclusive (-4) (-256) :=
      ⟨by decide, by decide, by decide⟩
    obtain ⟨hexact, -⟩ := hanswer (-4)
    generalize answer (-4) = found at hexact ⊢
    cases hexact with
    | none hempty => exact absurd (hempty ▸ hset) (Set.notMem_empty _)
    | @hit k hk =>
      obtain ⟨hlow, -, hbit⟩ := hk.1
      have hhigh : k ≤ -254 := hk.2 hset
      obtain rfl | rfl | rfl : k = -256 ∨ k = -255 ∨ k = -254 := by omega
      · exact absurd hbit (by decide)
      · exact absurd hbit (by decide)
      · rfl
  refine ⟨hs, ?_⟩
  rw [hsearch]
  change (⟨.ok (answer (-4)), [-1], []⟩ : Outcome (List Int) (Bool × Int)) = _
  rw [hfound]

end TickWalk.Bitmap
