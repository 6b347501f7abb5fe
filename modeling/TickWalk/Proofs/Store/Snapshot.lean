import TickWalk.Store.Basic
import TickWalk.Proofs.Action
import TickWalk.Proofs.Bitmap.Search
import TickWalk.Proofs.Keyed
import TickWalk.Proofs.Value

/-!
# Snapshots and their indexes

A snapshot keeps its ticks three times: as a map to liquidity, as bitmap words and as a sorted list.
`Snapshot.Indexed` says that the three agree. They do so whenever a snapshot is built from entries
with distinct ticks, which is what freezing the ticks of a commit leads to.
-/

namespace TickWalk

namespace Snapshot

/-- Whether a snapshot has liquidity under a tick. -/
def occupied (snap : Snapshot) (tick : Int) : Bool := (snap.liquidity.get? tick).isSome

/-- The three indexes of a snapshot hold the same ticks. The words count for a spacing that the
snapshot accepts, which is then its own. -/
structure Indexed (snap : Snapshot) : Prop where
  sorted : snap.sortedTicks.Pairwise (· < ·)
  mem_sorted : ∀ t, t ∈ snap.sortedTicks ↔ snap.occupied t = true
  aligned : ∀ s, 0 < s → (Value.int s).same snap.spacing = true →
    ∀ t, snap.occupied t = true → t % s = 0
  marked : ∀ s, 0 < s → (Value.int s).same snap.spacing = true →
    ∀ c, snap.words.has c = snap.occupied (c * s)

lemma freeze_add_ok {entries entries' : Keyed Liquidity} {u : LooseTick}
    (h : freeze.add entries u = .ok entries') :
    ∃ t l, u.tick.toInteger = .ok t ∧ u.gross.toInteger = .ok l.gross ∧
      u.net.toInteger = .ok l.net ∧ entries' = entries.put t l := by
  unfold freeze.add at h
  obtain ⟨t, ht, h⟩ := exists_of_bind_ok h
  obtain ⟨gross, hgross, h⟩ := exists_of_bind_ok h
  obtain ⟨net, hnet, h⟩ := exists_of_bind_ok h
  exact ⟨t, ⟨gross, net⟩, ht, hgross, hnet, (Except.ok.inj h).symm⟩

lemma foldlM_freeze_ok {ticks : List LooseTick} {entries entries' : Keyed Liquidity}
    (h : ticks.foldlM freeze.add entries = .ok entries')
    (hnodup : (entries.map (·.1)).Nodup) :
    (entries'.map (·.1)).Nodup ∧ ∀ t ∈ entries'.map (·.1),
      t ∈ entries.map (·.1) ∨ ∃ u ∈ ticks, u.tick.toInteger = .ok t := by
  induction ticks generalizing entries with
  | nil =>
    cases h
    exact ⟨hnodup, fun t ht => .inl ht⟩
  | cons u rest ih =>
    rw [List.foldlM_cons] at h
    obtain ⟨middle, hadd, h⟩ := exists_of_bind_ok h
    obtain ⟨t, l, ht, -, -, rfl⟩ := freeze_add_ok hadd
    obtain ⟨hnodup', hfrom⟩ := ih h (Keyed.nodup_put hnodup t l)
    refine ⟨hnodup', fun k hk => ?_⟩
    rcases hfrom k hk with hput | ⟨v, hv, hvk⟩
    · rcases Keyed.mem_keys_put.mp hput with rfl | hold
      · exact .inr ⟨u, List.mem_cons_self, ht⟩
      · exact .inl hold
    · exact .inr ⟨v, List.mem_cons_of_mem u hv, hvk⟩

lemma addTick_ok {spacing : Value} {words words' : Words} {t : Int}
    (h : addTick spacing words t = .ok words') :
    ∃ w, spacing.whole? = some w ∧ t.fmod w = 0 ∧
      words' = words.mark (Bitmap.position (t.fdiv w)) := by
  unfold addTick at h
  obtain ⟨fits, hfits, h⟩ := exists_of_bind_ok h
  cases fits with
  | false => simp at h
  | true =>
    rw [if_pos rfl] at h
    unfold aligned at hfits
    cases hw : spacing.whole? with
    | none => simp [hw] at h
    | some w =>
      simp only [hw] at h hfits
      refine ⟨w, rfl, ?_, (Except.ok.inj h).symm⟩
      by_cases hz : w = 0
      · simp [hz] at hfits
      · simpa [hz] using hfits

lemma has_foldlM_addTick {spacing : Value} {s : Int} (hs : 0 < s)
    (hspacing : (Value.int s).same spacing = true) {ticks : List Int} {words words' : Words}
    (h : ticks.foldlM (addTick spacing) words = .ok words') :
    (∀ t ∈ ticks, t % s = 0) ∧
      ∀ c, words'.has c = (words.has c || decide (c * s ∈ ticks)) := by
  induction ticks generalizing words with
  | nil =>
    cases h
    simp
  | cons t rest ih =>
    rw [List.foldlM_cons] at h
    obtain ⟨middle, hadd, h⟩ := exists_of_bind_ok h
    obtain ⟨w, hw, hmod, rfl⟩ := addTick_ok hadd
    obtain rfl : s = w := Value.eq_of_same_int hspacing hw
    rw [Int.fmod_eq_emod_of_nonneg _ hs.le] at hmod
    obtain ⟨haligned, hhas⟩ := ih h
    constructor
    · intro k hk
      rcases List.mem_cons.mp hk with rfl | hrest
      · exact hmod
      · exact haligned k hrest
    · intro c
      have hfirst : c = t.fdiv s ↔ c * s = t := by
        rw [Int.fdiv_eq_ediv_of_nonneg _ hs.le]
        constructor
        · rintro rfl
          exact Int.ediv_mul_cancel (Int.dvd_of_emod_eq_zero hmod)
        · rintro rfl
          exact (Int.mul_ediv_cancel c hs.ne').symm
      rw [hhas, Words.has_mark]
      simp only [hfirst, List.mem_cons, Bool.decide_or]
      cases decide (c * s = t) <;> cases words.has c <;> rfl

lemma ofLiquidity_ok {version spacing : Value} {entries : Keyed Liquidity} {snap : Snapshot}
    (h : ofLiquidity version spacing entries = .ok snap) :
    ∃ words, (entries.map (·.1)).foldlM (addTick spacing) [] = .ok words ∧
      snap = ⟨version, spacing, words, entries, (entries.map (·.1)).mergeSort⟩ := by
  unfold ofLiquidity at h
  obtain ⟨words, hwords, h⟩ := exists_of_bind_ok h
  exact ⟨words, hwords, (Except.ok.inj h).symm⟩

lemma indexed_of_ofLiquidity {version spacing : Value} {entries : Keyed Liquidity} {snap : Snapshot}
    (hnodup : (entries.map (·.1)).Nodup) (h : ofLiquidity version spacing entries = .ok snap) :
    snap.Indexed := by
  obtain ⟨words, hwords, rfl⟩ := ofLiquidity_ok h
  have hperm := List.mergeSort_perm (entries.map (·.1)) (fun a b => decide (a ≤ b))
  refine ⟨?_, ?_, ?_, ?_⟩
  · have hle : ((entries.map (·.1)).mergeSort).Pairwise (· ≤ ·) :=
      List.pairwise_mergeSort' (· ≤ ·) _
    have hne : ((entries.map (·.1)).mergeSort).Pairwise (· ≠ ·) := hperm.nodup_iff.mpr hnodup
    exact hle.imp₂ (fun _ _ hab hne => lt_of_le_of_ne hab hne) hne
  · intro t
    rw [hperm.mem_iff, Keyed.mem_keys_iff]
    rfl
  · intro s hpos hs t ht
    exact (has_foldlM_addTick hpos hs hwords).1 t (Keyed.mem_keys_iff.mpr ht)
  · intro s hpos hs c
    have hhas := (has_foldlM_addTick hpos hs hwords).2 c
    rw [hhas, Words.has_nil, Bool.false_or, Bool.eq_iff_iff, decide_eq_true_eq, Keyed.mem_keys_iff]
    rfl

end Snapshot

end TickWalk
