import TickWalk.Direction
import TickWalk.Domain
import Mathlib.Data.List.Sort
import Mathlib.Data.List.TakeWhile

/-!
# The course of a search

A search from a cursor reaches the keys below it, the cursor included, or the keys above it.
`KeyDomain.ahead` lists the keys of a domain in the order in which a search reaches them, and
`KeyDomain.course` those with some property up to the first one that is not strictly inside the
domain. Finding the nearest key with the property and going on from the next cursor runs through
the course: it leaves out no key and meets none twice.
-/

namespace TickWalk

section Lists

variable {α : Type} {p : α → Bool} {l : List α}

/-- Where a property never starts again once it has ended, the items before its end are all of them. -/
lemma takeWhile_eq_filter (h : l.Pairwise fun a b => p b = true → p a = true) :
    l.takeWhile p = l.filter p := by
  induction l with
  | nil => rfl
  | cons a rest ih =>
    rw [List.pairwise_cons] at h
    by_cases ha : p a = true
    · rw [List.takeWhile_cons_of_pos ha, List.filter_cons_of_pos ha, ih h.2]
    · rw [List.takeWhile_cons_of_neg ha, List.filter_cons_of_neg ha, eq_comm, List.filter_eq_nil_iff]
      exact fun b hb hpb => ha (h.1 b hb hpb)

lemma dropWhile_eq_filter (h : l.Pairwise fun a b => p b = true → p a = true) :
    l.dropWhile p = l.filter (!p ·) := by
  induction l with
  | nil => rfl
  | cons a rest ih =>
    rw [List.pairwise_cons] at h
    by_cases ha : p a = true
    · rw [List.dropWhile_cons_of_pos ha, List.filter_cons_of_neg (by simp [ha]), ih h.2]
    · rw [List.dropWhile_cons_of_neg ha, eq_comm, List.filter_eq_self]
      intro b hb
      rcases List.mem_cons.mp hb with rfl | hrest
      · simpa using ha
      · simpa using fun hpb => ha (h.1 b hrest hpb)

end Lists

namespace Direction

/-- Whether a search from `cursor` may answer `key`. -/
def reaches : Direction → Int → Int → Bool
  | inclusive, cursor, key => key ≤ cursor
  | exclusive, cursor, key => cursor < key

/-- `key` is the first key with the property `P` that a search from `cursor` reaches. -/
structure Nearest (d : Direction) (P : Int → Bool) (cursor key : Int) : Prop where
  reached : d.reaches cursor key = true
  holds : P key = true
  first : ∀ k, d.reaches cursor k = true → P k = true → d.precedes k key = false

lemma precedes_irrefl (d : Direction) (key : Int) : d.precedes key key = false := by
  cases d <;> simp [precedes]

lemma precedes_asymm {d : Direction} {a b : Int} (h : d.precedes a b = true) :
    d.precedes b a = false := by
  cases d <;> simp only [precedes, decide_eq_true_eq, decide_eq_false_iff_not] at h ⊢ <;> omega

lemma reaches_nextCursor (d : Direction) (hit key : Int) :
    d.reaches (d.nextCursor hit) key = d.precedes hit key := by
  cases d with
  | inclusive =>
    simp only [reaches, precedes, decide_eq_decide]
    simp only [nextCursor]
    omega
  | exclusive => rfl

lemma reaches_of_precedes {d : Direction} {cursor hit key : Int} (h : d.reaches cursor hit = true)
    (hkey : d.precedes hit key = true) : d.reaches cursor key = true := by
  cases d <;> simp only [reaches, precedes, decide_eq_true_eq] at h hkey ⊢ <;> omega

lemma precedes_or_eq_or_precedes (d : Direction) (a b : Int) :
    d.precedes a b = true ∨ a = b ∨ d.precedes b a = true := by
  cases d <;> simp only [precedes, decide_eq_true_eq] <;> omega

instance (d : Direction) : Std.Antisymm fun a b => d.precedes a b = true where
  antisymm a b hab hba := by
    rw [precedes_asymm hab] at hba
    exact absurd hba Bool.false_ne_true

instance (d : Direction) : Std.Irrefl fun a b => d.precedes a b = true where
  irrefl a h := by
    rw [precedes_irrefl] at h
    exact absurd h Bool.false_ne_true

end Direction

namespace KeyDomain

/-- The keys of a domain that a search from `start` reaches, in the order of the search. -/
def ahead (domain : KeyDomain) : Direction → Int → List Int
  | .inclusive, start => (List.range (start + 1 - domain.minKey).toNat).map fun i : Nat => start - i
  | .exclusive, start => (List.range (domain.maxKey - start).toNat).map fun i : Nat => start + 1 + i

/-- The keys with a property that are ahead of a start, up to the first one that is not strictly inside
the domain. Nothing beyond the domain is strictly inside it, so that `ahead` may end there. -/
def course (domain : KeyDomain) (d : Direction) (P : Int → Bool) (start : Int) : List Int :=
  ((domain.ahead d start).filter P).takeWhile domain.strictlyInside

lemma strictlyInside_iff {domain : KeyDomain} {key : Int} :
    domain.strictlyInside key = true ↔ domain.minKey < key ∧ key < domain.maxKey := by
  simp [strictlyInside]

lemma contains_iff {domain : KeyDomain} {key : Int} :
    domain.contains key = true ↔ domain.minKey ≤ key ∧ key ≤ domain.maxKey := by
  simp [contains]

lemma contains_nextCursor {domain : KeyDomain} {hit : Int} (h : domain.strictlyInside hit = true)
    (d : Direction) : domain.contains (d.nextCursor hit) = true := by
  rw [strictlyInside_iff] at h
  rw [contains_iff]
  cases d <;> simp only [Direction.nextCursor] <;> omega

lemma mem_ahead {domain : KeyDomain} {d : Direction} {start key : Int}
    (h : domain.contains start = true) :
    key ∈ domain.ahead d start ↔ d.reaches start key = true ∧ domain.contains key = true := by
  rw [contains_iff] at h ⊢
  cases d with
  | inclusive =>
    simp only [ahead, List.mem_map, List.mem_range, Direction.reaches, decide_eq_true_eq]
    constructor
    · rintro ⟨i, hi, rfl⟩
      omega
    · rintro ⟨hle, hmin, -⟩
      exact ⟨(start - key).toNat, by omega, by omega⟩
  | exclusive =>
    simp only [ahead, List.mem_map, List.mem_range, Direction.reaches, decide_eq_true_eq]
    constructor
    · rintro ⟨i, hi, rfl⟩
      omega
    · rintro ⟨hlt, -, hmax⟩
      exact ⟨(key - start - 1).toNat, by omega, by omega⟩

lemma pairwise_ahead (domain : KeyDomain) (d : Direction) (start : Int) :
    (domain.ahead d start).Pairwise fun a b => d.precedes a b = true := by
  cases d with
  | inclusive =>
    rw [ahead, List.pairwise_map]
    apply List.pairwise_lt_range.imp
    intro i j hij
    simp only [Direction.precedes, decide_eq_true_eq]
    omega
  | exclusive =>
    rw [ahead, List.pairwise_map]
    apply List.pairwise_lt_range.imp
    intro i j hij
    simp only [Direction.precedes, decide_eq_true_eq]
    omega

variable {domain : KeyDomain} {d : Direction} {P : Int → Bool} {cursor key : Int}

/-- The keys with a property that are ahead of a cursor: the nearest one, if it is strictly inside the
domain, and then those ahead of the next cursor. -/
theorem filter_ahead_of_nearest (hcursor : domain.contains cursor = true)
    (h : d.Nearest P cursor key) (hkey : domain.strictlyInside key = true) :
    (domain.ahead d cursor).filter P = key :: (domain.ahead d (d.nextCursor key)).filter P := by
  have hnext := contains_nextCursor hkey d
  have hinside := contains_of_strictlyInside hkey
  -- Both sides are in the order of the search, so that it is enough to compare their members.
  refine List.Pairwise.eq_of_mem_iff ((domain.pairwise_ahead d cursor).filter P) ?_ ?_
  · refine List.pairwise_cons.mpr ⟨?_, (domain.pairwise_ahead d _).filter P⟩
    intro k hk
    rw [List.mem_filter, mem_ahead hnext, Direction.reaches_nextCursor] at hk
    exact hk.1.1
  · intro k
    simp only [List.mem_cons, List.mem_filter, mem_ahead hcursor, mem_ahead hnext,
      Direction.reaches_nextCursor]
    constructor
    · rintro ⟨⟨hreach, hin⟩, hP⟩
      rcases d.precedes_or_eq_or_precedes k key with hlt | heq | hgt
      · rw [h.first k hreach hP] at hlt
        exact absurd hlt Bool.false_ne_true
      · exact .inl heq
      · exact .inr ⟨⟨hgt, hin⟩, hP⟩
    · rintro (rfl | ⟨⟨hgt, hin⟩, hP⟩)
      · exact ⟨⟨h.reached, hinside⟩, h.holds⟩
      · exact ⟨⟨Direction.reaches_of_precedes h.reached hgt, hin⟩, hP⟩

theorem course_of_nearest (hcursor : domain.contains cursor = true)
    (h : d.Nearest P cursor key) (hkey : domain.strictlyInside key = true) :
    domain.course d P cursor = key :: domain.course d P (d.nextCursor key) := by
  rw [course, filter_ahead_of_nearest hcursor h hkey, List.takeWhile_cons_of_pos hkey]
  rfl

lemma course_of_none (hcursor : domain.contains cursor = true)
    (h : ∀ u, d.reaches cursor u = true → P u = false) : domain.course d P cursor = [] := by
  have hnone : (domain.ahead d cursor).filter P = [] := by
    rw [List.filter_eq_nil_iff]
    intro u hu
    rw [h u ((mem_ahead hcursor).mp hu).1]
    exact Bool.false_ne_true
  rw [course, hnone, List.takeWhile_nil]

/-- A course is empty when the nearest key is not strictly inside the domain: that key is a bound, or
the domain holds no key with the property. -/
theorem course_of_nearest_outside (hcursor : domain.contains cursor = true)
    (h : d.Nearest P cursor key) (hkey : domain.strictlyInside key = false) :
    domain.course d P cursor = [] := by
  unfold course
  have hsorted := (domain.pairwise_ahead d cursor).filter P
  cases hhits : (domain.ahead d cursor).filter P with
  | nil => rfl
  | cons k rest =>
    have hk : k ∈ (domain.ahead d cursor).filter P := by simp [hhits]
    rw [List.mem_filter, mem_ahead hcursor] at hk
    obtain ⟨⟨hreach, hin⟩, hP⟩ := hk
    have hkout : domain.strictlyInside k = false := by
      rcases d.precedes_or_eq_or_precedes k key with hlt | rfl | hgt
      · rw [h.first k hreach hP] at hlt
        exact absurd hlt Bool.false_ne_true
      · exact hkey
      · -- A key of the domain behind the hit, so that the hit itself is in the domain and first.
        have hmem : key ∈ k :: rest := by
          rw [← hhits, List.mem_filter, mem_ahead hcursor]
          refine ⟨⟨h.reached, ?_⟩, h.holds⟩
          have hr := h.reached
          rw [contains_iff] at hin hcursor ⊢
          cases d <;> simp only [Direction.reaches, Direction.precedes, decide_eq_true_eq] at hr hgt <;>
            omega
        rw [hhits, List.pairwise_cons] at hsorted
        rcases List.mem_cons.mp hmem with rfl | hrest
        · exact hkey
        · have hback := hsorted.1 key hrest
          rw [Direction.precedes_asymm hgt] at hback
          exact absurd hback Bool.false_ne_true
    simp [hkout]

lemma pairwise_course (domain : KeyDomain) (d : Direction) (P : Int → Bool) (start : Int) :
    (domain.course d P start).Pairwise fun a b => d.precedes a b = true :=
  ((domain.pairwise_ahead d start).filter P).sublist (List.takeWhile_sublist _)

lemma of_mem_course (hstart : domain.contains cursor = true) (h : key ∈ domain.course d P cursor) :
    d.reaches cursor key = true ∧ P key = true ∧ domain.strictlyInside key = true := by
  have hmem := List.mem_filter.mp ((List.takeWhile_sublist _).subset h)
  exact ⟨((mem_ahead hstart).mp hmem.1).1, hmem.2, List.mem_takeWhile_imp h⟩

/-- A search downwards that starts at the upper bound, on a key with the property, ends there. -/
def StopsAt (domain : KeyDomain) (d : Direction) (P : Int → Bool) (start : Int) : Prop :=
  d = .inclusive ∧ start = domain.maxKey ∧ P start = true

theorem course_of_stopsAt (hstart : domain.contains cursor = true)
    (h : domain.StopsAt d P cursor) : domain.course d P cursor = [] := by
  obtain ⟨rfl, rfl, hP⟩ := h
  have hnearest : Direction.inclusive.Nearest P domain.maxKey domain.maxKey := by
    refine ⟨by simp [Direction.reaches], hP, ?_⟩
    intro k hreach _
    simpa [Direction.reaches, Direction.precedes] using hreach
  exact course_of_nearest_outside hstart hnearest (by simp [strictlyInside])

/-- From any other start a course misses nothing: it holds every key strictly inside the domain that
is reached and has the property. -/
theorem mem_course (hstart : domain.contains cursor = true) (h : ¬ domain.StopsAt d P cursor) :
    key ∈ domain.course d P cursor ↔
      d.reaches cursor key = true ∧ P key = true ∧ domain.strictlyInside key = true := by
  -- Once a key is not strictly inside the domain, no key after it is.
  have hends : ((domain.ahead d cursor).filter P).Pairwise fun a b =>
      domain.strictlyInside b = true → domain.strictlyInside a = true := by
    refine List.Pairwise.imp_of_mem ?_ ((domain.pairwise_ahead d cursor).filter P)
    intro a b ha hb hab hbin
    rw [List.mem_filter, mem_ahead hstart, contains_iff] at ha hb
    obtain ⟨⟨hreach, hmin, hmax⟩, hPa⟩ := ha
    rw [strictlyInside_iff] at hbin ⊢
    rw [contains_iff] at hstart
    cases d with
    | inclusive =>
      simp only [Direction.reaches, Direction.precedes, decide_eq_true_eq] at hreach hab
      have hne : a ≠ domain.maxKey := by
        intro heq
        have hcursor : cursor = a := by omega
        exact h ⟨rfl, hcursor.trans heq, hcursor ▸ hPa⟩
      omega
    | exclusive =>
      simp only [Direction.reaches, Direction.precedes, decide_eq_true_eq] at hreach hab
      omega
  rw [course, takeWhile_eq_filter hends, List.mem_filter, List.mem_filter, mem_ahead hstart]
  constructor
  · rintro ⟨⟨⟨hreach, -⟩, hP⟩, hin⟩
    exact ⟨hreach, hP, hin⟩
  · rintro ⟨hreach, hP, hin⟩
    exact ⟨⟨⟨hreach, contains_of_strictlyInside hin⟩, hP⟩, hin⟩

/-- The first keys of a course leave out none up to the last of them. -/
theorem mem_take_course (hstart : domain.contains cursor = true) {n : Nat} {last : Int}
    (hlast : last ∈ (domain.course d P cursor).take n) (hreach : d.reaches cursor key = true)
    (hkey : d.precedes last key = false) (hP : P key = true)
    (hin : domain.strictlyInside key = true) : key ∈ (domain.course d P cursor).take n := by
  have hstop : ¬ domain.StopsAt d P cursor := by
    intro hstop
    rw [course_of_stopsAt hstart hstop, List.take_nil] at hlast
    cases hlast
  have hmem := (mem_course hstart hstop).mpr ⟨hreach, hP, hin⟩
  rw [← List.take_append_drop n (domain.course d P cursor), List.mem_append] at hmem
  rcases hmem with htake | hdrop
  · exact htake
  · -- A key that has been dropped comes after every key that has been taken.
    have hordered := domain.pairwise_course d P cursor
    rw [← List.take_append_drop n (domain.course d P cursor), List.pairwise_append] at hordered
    have hafter := hordered.2.2 last hlast key hdrop
    rw [hkey] at hafter
    cases hafter

end KeyDomain

end TickWalk
