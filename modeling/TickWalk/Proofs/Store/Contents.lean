import TickWalk.Proofs.Store.History

/-!
# What a snapshot holds

A commit of whole ticks is frozen under three indexes. `Snapshot.Represents` says what each of them
holds in terms of the ticks that were given: the sorted list, the liquidity and the bits of the words
name the same ticks, and nothing else is stored. The order in which different ticks are given does
not matter.
-/

namespace TickWalk

namespace LooseTick

/-- All ticks are whole numbers. -/
def Whole (ticks : List LooseTick) : Prop := ∀ u ∈ ticks, ∃ t, u.tick.whole? = some t

/-- The pairs of the whole ticks, under the number of the tick. -/
def pairs (ticks : List LooseTick) : Keyed (Value × Value) :=
  ticks.filterMap fun u => u.tick.whole?.map fun t => (t, u.gross, u.net)

def lastPair? (ticks : List LooseTick) (t : Int) : Option (Value × Value) :=
  Keyed.get? (pairs ticks).reverse t

variable {ticks more : List LooseTick} {u : LooseTick} {t : Int}

lemma pairs_cons (hu : u.tick.whole? = some t) (rest : List LooseTick) :
    pairs (u :: rest) = (t, u.gross, u.net) :: pairs rest := by
  apply List.filterMap_cons_some
  rw [hu]
  rfl

lemma whole_put (h : Whole ticks) (hu : u.tick.whole? = some t) : Whole (put ticks u) := by
  induction ticks with
  | nil => exact List.forall_mem_singleton.mpr ⟨t, hu⟩
  | cons v rest ih =>
    have hrest := List.forall_mem_cons.mp h
    unfold put
    split
    · exact List.forall_mem_cons.mpr hrest
    · exact List.forall_mem_cons.mpr ⟨hrest.1, ih hrest.2⟩

lemma pairs_put (h : Whole ticks) (hu : u.tick.whole? = some t) :
    pairs (put ticks u) = (pairs ticks).put t (u.gross, u.net) := by
  induction ticks with
  | nil => exact pairs_cons hu []
  | cons v rest ih =>
    obtain ⟨⟨m, hm⟩, hrest⟩ := List.forall_mem_cons.mp h
    rw [put, Value.same_of_whole hm hu, pairs_cons hm, Keyed.put]
    by_cases hmt : m = t
    · have hnew : Value.whole? (LooseTick.tick ⟨v.tick, u.gross, u.net⟩) = some m := hm
      rw [if_pos (beq_iff_eq.mpr hmt), if_pos hmt, pairs_cons hnew]
    · rw [if_neg (mt beq_iff_eq.mp hmt), if_neg hmt, pairs_cons hm, ih hrest]

lemma pairs_foldl_put (h : Whole ticks) (hmore : Whole more) :
    Whole (more.foldl put ticks) ∧
      pairs (more.foldl put ticks) = Keyed.putAll (pairs ticks) (pairs more) := by
  induction more generalizing ticks with
  | nil => exact ⟨h, rfl⟩
  | cons u rest ih =>
    obtain ⟨⟨t, hu⟩, hrest⟩ := List.forall_mem_cons.mp hmore
    obtain ⟨hwhole, hpairs⟩ := ih (whole_put h hu) hrest
    rw [List.foldl_cons, hpairs, pairs_put h hu, pairs_cons hu]
    exact ⟨hwhole, rfl⟩

lemma lastPair?_distinct {once : List LooseTick} (h : distinct ticks = .ok once)
    (hwhole : Whole ticks) : Whole once ∧ ∀ t, lastPair? once t = lastPair? ticks t := by
  unfold distinct at h
  split at h
  · obtain rfl := Except.ok.inj h
    have hnil : Whole [] := fun u hu => absurd hu List.not_mem_nil
    obtain ⟨honce, hpairs⟩ := pairs_foldl_put hnil hwhole
    refine ⟨honce, fun t => ?_⟩
    have hnodup : ((Keyed.putAll (pairs []) (pairs ticks)).map (·.1)).Nodup :=
      Keyed.nodup_putAll List.nodup_nil
    rw [lastPair?, hpairs, ← Keyed.get?_of_perm hnodup (List.reverse_perm _).symm,
      Keyed.get?_putAll]
    exact Option.or_none
  · cases h

lemma lastPair?_append_singleton (hu : u.tick.whole? = some t) (n : Int) :
    lastPair? (ticks ++ [u]) n = if n = t then some (u.gross, u.net) else lastPair? ticks n := by
  have hpairs : pairs (ticks ++ [u]) = pairs ticks ++ [(t, u.gross, u.net)] := by
    unfold pairs
    rw [List.filterMap_append]
    exact congrArg _ (pairs_cons hu [])
  rw [lastPair?, hpairs, List.reverse_append]
  exact Keyed.get?_cons t n _ _

lemma lastPair?_of_perm (hdiffer : ticks.Pairwise fun u v => u.tick.same v.tick = false)
    (hperm : more.Perm ticks) (t : Int) : lastPair? more t = lastPair? ticks t := by
  have hnodup : ((pairs ticks).map (·.1)).Nodup := by
    rw [List.Nodup, List.pairwise_map]
    unfold pairs
    rw [List.pairwise_filterMap]
    refine hdiffer.imp fun hsame p hp q hq heq => ?_
    obtain ⟨i, hi, rfl⟩ := Option.map_eq_some_iff.mp hp
    obtain ⟨j, hj, rfl⟩ := Option.map_eq_some_iff.mp hq
    rw [Value.same_of_whole hi hj, beq_eq_false_iff_ne] at hsame
    exact hsame heq
  have hpairs : (pairs more).reverse.Perm (pairs ticks) :=
    (List.reverse_perm _).trans (hperm.filterMap _)
  rw [lastPair?, lastPair?, ← Keyed.get?_of_perm hnodup hpairs.symm,
    ← Keyed.get?_of_perm hnodup (List.reverse_perm _).symm]

end LooseTick

/-- The liquidity that a pair of loose values stands for. -/
structure Liquidity.Converts (pair : Value × Value) (l : Liquidity) : Prop where
  gross : pair.1.toInteger = .ok l.gross
  net : pair.2.toInteger = .ok l.net

lemma Liquidity.eq_of_rel {pair : Option (Value × Value)} {l l' : Option Liquidity}
    (h : Option.Rel Converts pair l) (h' : Option.Rel Converts pair l') : l = l' := by
  cases h with
  | none =>
    cases h'
    rfl
  | some hl =>
    cases h' with
    | some hl' =>
      have hgross := Except.ok.inj (hl.gross.symm.trans hl'.gross)
      have hnet := Except.ok.inj (hl.net.symm.trans hl'.net)
      rw [Option.some.injEq, Liquidity.mk.injEq]
      exact ⟨hgross, hnet⟩

/-- Each word is stored once; it has at most 256 bits and is not zero. -/
structure Words.Stored (words : Words) : Prop where
  nodup : (words.map (·.1)).Nodup
  range : ∀ e ∈ words, 0 < e.2 ∧ e.2 < 2 ^ 256

namespace Words

variable {words : Words} {e : Int × Nat}

lemma stored_nil : Stored [] := ⟨List.nodup_nil, fun _ h => absurd h List.not_mem_nil⟩

lemma Stored.get_lt (h : words.Stored) (n : Int) : words.get n < 2 ^ 256 := by
  unfold get
  cases hw : words.get? n with
  | none => exact Nat.two_pow_pos 256
  | some w => exact (h.range (n, w) (Keyed.mem_of_get? hw)).2

lemma Stored.mark (h : words.Stored) (c : Int) : (words.mark (Bitmap.position c)).Stored := by
  refine ⟨Keyed.nodup_put h.nodup _ _, fun e he => ?_⟩
  rcases Keyed.eq_or_mem_of_mem_put he with rfl | hold
  · have hbit : 1 <<< (Bitmap.position c).bit < 2 ^ 256 := by
      rw [Nat.one_shiftLeft]
      exact Nat.pow_lt_pow_right Nat.one_lt_two (Bitmap.position_bit_lt c)
    have hpos : 0 < 1 <<< (Bitmap.position c).bit := by
      rw [Nat.one_shiftLeft]
      exact Nat.two_pow_pos _
    exact ⟨hpos.trans_le Nat.right_le_or, Nat.or_lt_two_pow (h.get_lt _) hbit⟩
  · exact h.range e hold

lemma Stored.get_of_mem (h : words.Stored) (he : e ∈ words) : words.get e.1 = e.2 := by
  rw [get, (Keyed.get?_eq_some_iff h.nodup).mpr he]
  rfl

lemma Stored.bit_lt (h : words.Stored) (he : e ∈ words) {b : Nat} (hb : e.2.testBit b = true) :
    b < 256 := by
  by_contra hge
  have hlt : e.2 < 2 ^ b :=
    (h.range e he).2.trans_le (Nat.pow_le_pow_right Nat.two_pos (Nat.not_lt.mp hge))
  rw [Nat.testBit_lt_two_pow hlt] at hb
  cases hb

lemma has_mul_add (words : Words) (n : Int) {b : Nat} (hb : b < 256) :
    words.has (n * 256 + b) = (words.get n).testBit b := by
  have hplace : Bitmap.position (n * 256 + b) = ⟨n, b⟩ := by
    rw [Bitmap.position, Bitmap.Place.mk.injEq, wordSize]
    omega
  rw [has, hplace]

end Words

namespace Snapshot

variable {snap snap' : Snapshot} {c c' : Commit}

/-- A snapshot holds the whole ticks of a commit, under all three indexes, and nothing else. -/
structure Represents (snap : Snapshot) (c : Commit) : Prop where
  version : snap.version = c.version
  spacing : snap.spacing = c.spacing
  positive : ∀ s, c.spacing.whole? = some s → 0 < s
  /-- The keys of the liquidity, each stored once, and the sorted ticks are the same numbers. -/
  once : (snap.liquidity.map (·.1)).Nodup
  sorted : snap.sortedTicks.Pairwise (· < ·)
  mem_sorted : ∀ t, t ∈ snap.sortedTicks ↔ snap.occupied t = true
  /-- A tick is stored exactly when it is a multiple of the spacing whose bit is set. -/
  marked : ∀ t, snap.occupied t = true ↔ ∃ s, c.spacing.whole? = some s ∧ t % s = 0 ∧
    (snap.words.get (t / s / 256)).testBit (t / s % 256).toNat = true
  stored : snap.words.Stored
  /-- Every bit of every word is that of a stored tick. -/
  bits : ∀ e ∈ snap.words, ∀ b, e.2.testBit b = true →
    b < 256 ∧ ∃ s, c.spacing.whole? = some s ∧ snap.occupied ((e.1 * 256 + b) * s) = true
  /-- A tick has the liquidity that was given last for it. -/
  held : ∀ t, Option.Rel Liquidity.Converts (LooseTick.lastPair? c.ticks t) (snap.liquidity.get? t)

lemma rel_foldlM_freeze {done ticks : List LooseTick} {entries entries' : Keyed Liquidity}
    (h : ticks.foldlM freeze.add entries = .ok entries') (hwhole : LooseTick.Whole ticks)
    (hdone : ∀ t, Option.Rel Liquidity.Converts (LooseTick.lastPair? done t) (entries.get? t)) :
    ∀ t, Option.Rel Liquidity.Converts (LooseTick.lastPair? (done ++ ticks) t)
      (entries'.get? t) := by
  induction ticks generalizing done entries with
  | nil =>
    cases h
    rwa [List.append_nil]
  | cons u rest ih =>
    obtain ⟨⟨n, hn⟩, hrest⟩ := List.forall_mem_cons.mp hwhole
    rw [List.foldlM_cons] at h
    obtain ⟨middle, hadd, h⟩ := exists_of_bind_ok h
    obtain ⟨t, l, ht, hgross, hnet, rfl⟩ := freeze_add_ok hadd
    rw [Value.toInteger_of_whole hn] at ht
    obtain rfl := Except.ok.inj ht
    rw [List.append_cons]
    apply ih h hrest
    intro m
    rw [LooseTick.lastPair?_append_singleton hn, Keyed.get?_put]
    by_cases hm : m = n
    · rw [if_pos hm, if_pos hm]
      exact .some ⟨hgross, hnet⟩
    · rw [if_neg hm, if_neg hm]
      exact hdone m

lemma stored_foldlM_addTick {spacing : Value} {ticks : List Int} {words words' : Words}
    (h : ticks.foldlM (addTick spacing) words = .ok words') (hwords : words.Stored) :
    words'.Stored := by
  induction ticks generalizing words with
  | nil =>
    cases h
    exact hwords
  | cons t rest ih =>
    rw [List.foldlM_cons] at h
    obtain ⟨middle, hadd, h⟩ := exists_of_bind_ok h
    obtain ⟨w, -, -, rfl⟩ := addTick_ok hadd
    exact ih h (hwords.mark _)

lemma whole_of_foldlM_addTick {spacing : Value} {ticks : List Int} {words words' : Words}
    (h : ticks.foldlM (addTick spacing) words = .ok words') :
    (ticks = [] ∧ words' = words) ∨ ∃ s, spacing.whole? = some s := by
  cases ticks with
  | nil =>
    cases h
    exact .inl ⟨rfl, rfl⟩
  | cons t rest =>
    rw [List.foldlM_cons] at h
    obtain ⟨middle, hadd, h⟩ := exists_of_bind_ok h
    obtain ⟨w, hw, -, -⟩ := addTick_ok hadd
    exact .inr ⟨w, hw⟩

/-- What a commit of whole ticks adds holds these ticks. -/
theorem represents_of_prepare {s : Store} (h : s.prepare c = .ok snap)
    (hwhole : LooseTick.Whole c.ticks) : snap.Represents c := by
  obtain ⟨ticks, entries, hdistinct, hlow, -, -, hentries, hsnap⟩ := Store.prepare_ok h
  obtain ⟨honce, hlast⟩ := LooseTick.lastPair?_distinct hdistinct hwhole
  have hnodup := (foldlM_freeze_ok hentries List.nodup_nil).1
  have hindexed := indexed_of_ofLiquidity hnodup hsnap
  obtain ⟨words, hwords, rfl⟩ := ofLiquidity_ok hsnap
  have hstored := stored_foldlM_addTick hwords Words.stored_nil
  have hpos : ∀ s, c.spacing.whole? = some s → 0 < s := fun s hs => Value.pos_of_whole hs hlow
  have hsame : ∀ s, c.spacing.whole? = some s → (Value.int s).same c.spacing = true :=
    fun s hs => (Value.same_of_whole rfl hs).trans (beq_self_eq_true s)
  constructor
  case version => rfl
  case spacing => rfl
  case positive => exact hpos
  case once => exact hnodup
  case sorted => exact hindexed.sorted
  case mem_sorted => exact hindexed.mem_sorted
  case stored => exact hstored
  case marked =>
    intro t
    constructor
    · intro ht
      rcases whole_of_foldlM_addTick hwords with ⟨hnone, -⟩ | ⟨s, hs⟩
      · rw [occupied, ← Keyed.mem_keys_iff, hnone] at ht
        cases ht
      · have hmod := hindexed.aligned s (hpos s hs) (hsame s hs) t ht
        refine ⟨s, hs, hmod, (hindexed.marked s (hpos s hs) (hsame s hs) (t / s)).trans ?_⟩
        rwa [Int.ediv_mul_cancel (Int.dvd_of_emod_eq_zero hmod)]
    · rintro ⟨s, hs, hmod, hbit⟩
      have hhas := hindexed.marked s (hpos s hs) (hsame s hs) (t / s)
      rw [Int.ediv_mul_cancel (Int.dvd_of_emod_eq_zero hmod)] at hhas
      exact hhas.symm.trans hbit
  case bits =>
    intro e he b hb
    rcases whole_of_foldlM_addTick hwords with ⟨-, hnone⟩ | ⟨s, hs⟩
    · rw [hnone] at he
      cases he
    · have hlt := hstored.bit_lt he hb
      refine ⟨hlt, s, hs, ?_⟩
      rw [← hindexed.marked s (hpos s hs) (hsame s hs), Words.has_mul_add _ _ hlt,
        hstored.get_of_mem he]
      exact hb
  case held =>
    intro t
    rw [← hlast]
    have hnil (n : Int) : Option.Rel Liquidity.Converts (LooseTick.lastPair? [] n)
        (Keyed.get? ([] : Keyed Liquidity) n) := .none
    exact rel_foldlM_freeze hentries honce hnil t

lemma Represents.testBit_get (h : snap.Represents c) (n : Int) (b : Nat) :
    (snap.words.get n).testBit b = true ↔
      b < 256 ∧ ∃ s, c.spacing.whole? = some s ∧ snap.occupied ((n * 256 + b) * s) = true := by
  constructor
  · intro hbit
    cases hw : snap.words.get? n with
    | none =>
      rw [Words.get, hw, Option.getD_none, Nat.zero_testBit] at hbit
      cases hbit
    | some w =>
      rw [Words.get, hw, Option.getD_some] at hbit
      exact h.bits (n, w) (Keyed.mem_of_get? hw) b hbit
  · rintro ⟨hb, s, hs, hocc⟩
    obtain ⟨s', hs', -, hbit⟩ := (h.marked _).mp hocc
    obtain rfl : s = s' := Option.some.inj (hs.symm.trans hs')
    have hword : (n * 256 + b) / 256 = n := by omega
    have hplace : ((n * 256 + b) % 256).toNat = b := by omega
    rwa [Int.mul_ediv_cancel _ (h.positive s hs).ne', hword, hplace] at hbit

/-- Two snapshots with the same liquidity, words and sorted ticks. -/
structure SameContents (snap snap' : Snapshot) : Prop where
  sorted : snap.sortedTicks = snap'.sortedTicks
  liquidity : ∀ t, snap.liquidity.get? t = snap'.liquidity.get? t
  words : ∀ n, snap.words.get? n = snap'.words.get? n

/-- The spacing and the pairs given last decide what a snapshot holds. -/
theorem Represents.sameContents (h : snap.Represents c) (h' : snap'.Represents c')
    (hspacing : c.spacing = c'.spacing)
    (hlast : ∀ t, LooseTick.lastPair? c.ticks t = LooseTick.lastPair? c'.ticks t) :
    snap.SameContents snap' := by
  have hliquidity (t : Int) : snap.liquidity.get? t = snap'.liquidity.get? t := by
    have hheld := h.held t
    rw [hlast t] at hheld
    exact Liquidity.eq_of_rel hheld (h'.held t)
  have hoccupied (t : Int) : snap.occupied t = snap'.occupied t := by
    rw [occupied, occupied, hliquidity]
  have hget (n : Int) : snap.words.get n = snap'.words.get n := by
    apply Nat.eq_of_testBit_eq
    intro b
    rw [Bool.eq_iff_iff, h.testBit_get, h'.testBit_get, hspacing]
    simp only [hoccupied]
  refine ⟨?_, hliquidity, fun n => ?_⟩
  · apply List.Pairwise.eq_of_mem_iff h.sorted h'.sorted
    intro t
    rw [h.mem_sorted, h'.mem_sorted, hoccupied]
  · -- A word that is stored is not zero, so that the other snapshot stores it as well.
    have hn := hget n
    unfold Words.get at hn
    cases hw : snap.words.get? n with
    | none =>
      cases hw' : snap'.words.get? n with
      | none => rfl
      | some w' =>
        have hpos := (h'.stored.range _ (Keyed.mem_of_get? hw')).1
        rw [hw, hw'] at hn
        exact absurd hn.symm hpos.ne'
    | some w =>
      cases hw' : snap'.words.get? n with
      | none =>
        have hpos := (h.stored.range _ (Keyed.mem_of_get? hw)).1
        rw [hw, hw'] at hn
        exact absurd hn hpos.ne'
      | some w' =>
        rw [hw, hw'] at hn
        exact congrArg some hn

end Snapshot

namespace Store

/-- Whatever else has been done with a store, it holds every commit of whole ticks: its three indexes
describe the ticks that were given, with the liquidity given last for each. Given in another order,
to this store or to another one, different ticks lead to the same contents. -/
theorem snapshot_represents_commit {s : Store} {c : Commit} (h : s.HasCommitted c)
    (hwhole : LooseTick.Whole c.ticks) :
    ∃ snap, s.Holds c.name snap ∧ snap.Represents c ∧
      ∀ (t : Store) (c' : Commit), t.HasCommitted c' → c'.spacing = c.spacing →
        (c.ticks.Pairwise fun u v => u.tick.same v.tick = false) → c'.ticks.Perm c.ticks →
        ∃ snap', t.Holds c'.name snap' ∧ snap'.SameContents snap := by
  obtain ⟨before, snap, hprepare, hholds⟩ := h.exists_holds
  have hrepresents := Snapshot.represents_of_prepare hprepare hwhole
  refine ⟨snap, hholds, hrepresents, ?_⟩
  intro t c' h' hspacing hdiffer hperm
  obtain ⟨before', snap', hprepare', hholds'⟩ := h'.exists_holds
  have hwhole' : LooseTick.Whole c'.ticks := fun u hu => hwhole u (hperm.mem_iff.mp hu)
  have hrepresents' := Snapshot.represents_of_prepare hprepare' hwhole'
  exact ⟨snap', hholds', hrepresents'.sameContents hrepresents hspacing
    (LooseTick.lastPair?_of_perm hdiffer hperm)⟩

/-- Four ticks on both edges of two words, one of them given as a truth value, committed to two
stores in opposite orders. -/
theorem snapshot_represents_commit_on_edges :
    let c : Commit := ⟨[⟨.int (-2560), .int 1, .int 1⟩, ⟨.int 2550, .int 2, .int (-2)⟩,
      ⟨.int (-10), .int 3, .int 0⟩, ⟨.bool false, .int 4, .bool true⟩], .int 7, .int 10, .null⟩
    let c' : Commit := ⟨c.ticks.reverse, .int 8, .int 10, .null⟩
    let s := ((commit c).run (.empty ⟨-3000, 3000⟩ true)).state
    let t := ((commit c').run (.empty ⟨-5000, 5000⟩ false)).state
    s.HasCommitted c ∧ LooseTick.Whole c.ticks ∧
      ∃ snap snap', s.Holds (.int 7) snap ∧ snap.Represents c ∧
        snap.words = [(-1, 2 ^ 255 + 1), (0, 2 ^ 255 + 1)] ∧
        t.Holds (.int 8) snap' ∧ snap'.SameContents snap := by
  intro c c' s t
  have hcommitted : s.HasCommitted c :=
    ⟨.empty ⟨-3000, 3000⟩ true, .empty _ _, [], ⟨.int 7, rfl⟩, rfl⟩
  have hcommitted' : t.HasCommitted c' :=
    ⟨.empty ⟨-5000, 5000⟩ false, .empty _ _, [], ⟨.int 8, rfl⟩, rfl⟩
  have hwhole : LooseTick.Whole c.ticks := by
    intro u hu
    simp only [c, List.mem_cons, List.not_mem_nil, or_false] at hu
    rcases hu with rfl | rfl | rfl | rfl <;> exact ⟨_, rfl⟩
  have hdiffer : c.ticks.Pairwise fun u v => u.tick.same v.tick = false := by
    simp [c, Value.same, Value.sameNumber, Value.parts?, Decimal.Parts.compare?_ofInt]
  obtain ⟨snap, hholds, hrepresents, horder⟩ := snapshot_represents_commit hcommitted hwhole
  obtain ⟨snap', hholds', hsame⟩ := horder t c' hcommitted' rfl hdiffer (List.reverse_perm _)
  have hfound := hholds.found rfl
  have hwords : snap.words = [(-1, 2 ^ 255 + 1), (0, 2 ^ 255 + 1)] := by
    rw [← Except.ok.inj hfound]
    rfl
  exact ⟨hcommitted, hwhole, snap, snap', hholds, hrepresents, hwords, hholds', hsame⟩

end Store

end TickWalk
