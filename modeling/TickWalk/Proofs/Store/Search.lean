import TickWalk.Store.Search
import TickWalk.Proofs.Store.Reachable

/-!
# Searching the store

A search in a committed snapshot answers in both modes, whatever the cursor. Inside one word it
answers with the nearest landmark of the bitmap; otherwise with the nearest tick of the snapshot, or
with a bound of the store's own domain when there is none in the direction of the search.
-/

namespace TickWalk

/-- The bound that a search runs into. -/
def KeyDomain.bound (domain : KeyDomain) : Direction → Int
  | .inclusive => domain.minKey
  | .exclusive => domain.maxKey

lemma KeyDomain.strictlyInside_bound (domain : KeyDomain) (d : Direction) :
    domain.strictlyInside (domain.bound d) = false := by
  cases d <;> simp [strictlyInside, bound]

namespace Store

lemma notAbove_int (ticks : List Int) (cursor : Int) :
    notAbove ticks (.int cursor) = .ok (ticks.takeWhile (· ≤ cursor)).length := by
  have hmap : ticks.mapM (fun t => (Value.int cursor).less (.int t)) =
      (.ok (ticks.map fun t => decide (cursor < t)) : Except Failure (List Bool)) := by
    induction ticks with
    | nil => rfl
    | cons t rest ih =>
      rw [List.mapM_cons, ih]
      rfl
  have hle : (fun b => !b) ∘ (fun t => decide (cursor < t)) = fun t => decide (t ≤ cursor) := by
    funext t
    rw [Function.comp_apply, ← decide_not, decide_eq_decide]
    exact not_lt
  unfold notAbove
  rw [hmap, ok_bind, List.takeWhile_map, List.length_map, hle]

variable {ticks : List Int} {cursor t : Int}

lemma pairwise_le_of_lt (h : ticks.Pairwise (· < ·)) (cursor : Int) :
    ticks.Pairwise fun a b => decide (b ≤ cursor) = true → decide (a ≤ cursor) = true := by
  apply h.imp
  intro a b hab hb
  rw [decide_eq_true_eq] at hb ⊢
  exact hab.le.trans hb

lemma mem_takeWhile_le (h : ticks.Pairwise (· < ·)) :
    t ∈ ticks.takeWhile (· ≤ cursor) ↔ t ∈ ticks ∧ t ≤ cursor := by
  rw [takeWhile_eq_filter (pairwise_le_of_lt h cursor), List.mem_filter, decide_eq_true_eq]

lemma mem_dropWhile_le (h : ticks.Pairwise (· < ·)) :
    t ∈ ticks.dropWhile (· ≤ cursor) ↔ t ∈ ticks ∧ cursor < t := by
  rw [dropWhile_eq_filter (pairwise_le_of_lt h cursor), List.mem_filter, Bool.not_eq_true',
    decide_eq_false_iff_not, not_le]

lemma nearest_of_getLast? (h : ticks.Pairwise (· < ·))
    (hlast : (ticks.takeWhile (· ≤ cursor)).getLast? = some t) :
    Direction.inclusive.Nearest (fun u => decide (u ∈ ticks)) cursor t := by
  obtain ⟨before, hbefore⟩ := List.getLast?_eq_some_iff.mp hlast
  have hmem : t ∈ ticks ∧ t ≤ cursor := (mem_takeWhile_le h).mp (by simp [hbefore])
  have hsorted := h.sublist (List.takeWhile_sublist (· ≤ cursor))
  rw [hbefore, List.pairwise_append] at hsorted
  refine ⟨by simpa [Direction.reaches] using hmem.2, by simpa using hmem.1, fun u hreach hu => ?_⟩
  simp only [Direction.reaches, decide_eq_true_eq] at hreach hu
  have hutake := (mem_takeWhile_le h).mpr ⟨hu, hreach⟩
  rw [hbefore, List.mem_append, List.mem_singleton] at hutake
  simp only [Direction.precedes, decide_eq_false_iff_not, not_lt]
  rcases hutake with hb | rfl
  · exact (hsorted.2.2 u hb t (by simp)).le
  · exact le_rfl

lemma nearest_of_head? (h : ticks.Pairwise (· < ·))
    (hhead : (ticks.dropWhile (· ≤ cursor)).head? = some t) :
    Direction.exclusive.Nearest (fun u => decide (u ∈ ticks)) cursor t := by
  obtain ⟨after, hafter⟩ := List.head?_eq_some_iff.mp hhead
  have hmem : t ∈ ticks ∧ cursor < t := (mem_dropWhile_le h).mp (by simp [hafter])
  have hsorted := h.sublist (List.dropWhile_sublist (· ≤ cursor))
  rw [hafter, List.pairwise_cons] at hsorted
  refine ⟨by simpa [Direction.reaches] using hmem.2, by simpa using hmem.1, fun u hreach hu => ?_⟩
  simp only [Direction.reaches, decide_eq_true_eq] at hreach hu
  have hudrop := (mem_dropWhile_le h).mpr ⟨hu, hreach⟩
  rw [hafter, List.mem_cons] at hudrop
  simp only [Direction.precedes, decide_eq_false_iff_not, not_lt]
  rcases hudrop with rfl | ha
  · exact le_rfl
  · exact (hsorted.1 u ha).le

/-- The nearest tick of an ascending list, or the bound when no tick is reached. -/
theorem nearest_int (h : ticks.Pairwise (· < ·)) (domain : KeyDomain) (d : Direction)
    (cursor : Int) :
    ∃ flag t, nearest domain ticks (.int cursor) d = .ok (flag, t) ∧
      ((flag = true ∧ d.Nearest (fun u => decide (u ∈ ticks)) cursor t) ∨
        (flag = false ∧ t = domain.bound d ∧ ∀ u ∈ ticks, d.reaches cursor u = false)) := by
  unfold nearest
  rw [notAbove_int, ok_bind]
  have hsplit : ticks = ticks.takeWhile (· ≤ cursor) ++ ticks.dropWhile (· ≤ cursor) :=
    List.takeWhile_append_dropWhile.symm
  cases d with
  | inclusive =>
    have htake : ticks.take (ticks.takeWhile (· ≤ cursor)).length = ticks.takeWhile (· ≤ cursor) := by
      nth_rewrite 2 [hsplit]
      exact List.take_left
    simp only [htake]
    cases hlast : (ticks.takeWhile (· ≤ cursor)).getLast? with
    | some t => exact ⟨true, t, rfl, .inl ⟨rfl, nearest_of_getLast? h hlast⟩⟩
    | none =>
      rw [List.getLast?_eq_none_iff] at hlast
      refine ⟨false, domain.minKey, rfl, .inr ⟨rfl, rfl, fun u hu => ?_⟩⟩
      by_contra hreach
      rw [Bool.not_eq_false, Direction.reaches, decide_eq_true_eq] at hreach
      exact List.not_mem_nil (hlast ▸ (mem_takeWhile_le h).mpr ⟨hu, hreach⟩)
  | exclusive =>
    have hget : ticks[(ticks.takeWhile (· ≤ cursor)).length]? =
        (ticks.dropWhile (· ≤ cursor)).head? := by
      nth_rewrite 1 [hsplit]
      rw [List.getElem?_append_right le_rfl, Nat.sub_self, List.head?_eq_getElem?]
    simp only [hget]
    cases hhead : (ticks.dropWhile (· ≤ cursor)).head? with
    | some t => exact ⟨true, t, rfl, .inl ⟨rfl, nearest_of_head? h hhead⟩⟩
    | none =>
      rw [List.head?_eq_none_iff] at hhead
      refine ⟨false, domain.maxKey, rfl, .inr ⟨rfl, rfl, fun u hu => ?_⟩⟩
      by_contra hreach
      rw [Bool.not_eq_false, Direction.reaches, decide_eq_true_eq] at hreach
      exact List.not_mem_nil (hhead ▸ (mem_dropWhile_le h).mpr ⟨hu, hreach⟩)

variable {s : Store} {handle : Value} {snap : Snapshot} {spacing : Int}

lemma find_of_snapshot (hsnap : s.snapshot handle = .ok snap)
    (hspacing : (Value.int spacing).same snap.spacing = true) (cursor : Value) (d : Direction) :
    s.find handle cursor d (.int spacing) = s.findIn snap cursor d (.int spacing) := by
  unfold find
  rw [hsnap, ok_bind, if_pos hspacing]

/-- Inside one word the search answers with the nearest landmark. -/
theorem find_of_withinOneWord (hs : s.Reachable) (hmode : s.withinOneWord = true)
    (hsnap : s.snapshot handle = .ok snap)
    (hspacing : (Value.int spacing).same snap.spacing = true) (hpos : 0 < spacing) (d : Direction)
    (cursor : Int) :
    ∃ t, s.find handle (.int cursor) d (.int spacing) = .ok (snap.occupied t, t) ∧
      d.Nearest (Bitmap.isLandmark d spacing snap.occupied) cursor t := by
  obtain ⟨p, t, hp, hanswer, hnearest⟩ :=
    Bitmap.nearest_answer hpos ((hs.indexed hsnap).marked spacing hpos hspacing) d cursor
  refine ⟨t, ?_, hnearest⟩
  rw [find_of_snapshot hsnap hspacing, findIn, if_pos hmode, Bitmap.search_at_hand hp, hanswer]

/-- Otherwise the search answers with the nearest tick, or with the bound of the store's domain. -/
theorem find_of_not_withinOneWord (hs : s.Reachable) (hmode : s.withinOneWord = false)
    (hsnap : s.snapshot handle = .ok snap)
    (hspacing : (Value.int spacing).same snap.spacing = true) (d : Direction) (cursor : Int) :
    ∃ flag t, s.find handle (.int cursor) d (.int spacing) = .ok (flag, t) ∧
      ((flag = true ∧ d.Nearest snap.occupied cursor t) ∨
        (flag = false ∧ t = s.domain.bound d ∧
          ∀ u, d.reaches cursor u = true → snap.occupied u = false)) := by
  have hindexed := hs.indexed hsnap
  have hticks : (fun u => decide (u ∈ snap.sortedTicks)) = snap.occupied := by
    funext u
    rw [Bool.eq_iff_iff, decide_eq_true_eq, hindexed.mem_sorted]
  obtain ⟨flag, t, hfind, hcase⟩ := nearest_int hindexed.sorted s.domain d cursor
  refine ⟨flag, t, ?_, ?_⟩
  · rw [find_of_snapshot hsnap hspacing, findIn, if_neg (by simp [hmode]), hfind]
  · rcases hcase with ⟨hflag, hnearest⟩ | ⟨hflag, hbound, hnone⟩
    · exact .inl ⟨hflag, hticks ▸ hnearest⟩
    · refine .inr ⟨hflag, hbound, fun u hu => ?_⟩
      by_contra hocc
      rw [Bool.not_eq_false, ← hindexed.mem_sorted] at hocc
      rw [hnone u hocc] at hu
      exact Bool.false_ne_true hu

end Store

end TickWalk
