import TickWalk.Proofs.Store.Snapshot

/-!
# Stores that commits lead to

A store starts empty and is changed by commits only. Every snapshot in it was prepared by some
commit, so that its indexes agree and its ticks are in the domain of the store.
-/

namespace TickWalk.Store

/-- The stores that commits lead to, those that fail included. -/
inductive Reachable : Store → Prop
  | empty (domain : KeyDomain) (withinOneWord : Bool) : Reachable (.empty domain withinOneWord)
  | commit {s : Store} (h : Reachable s) (c : Commit) : Reachable ((commit c).run s).state

lemma state_commit_of_ok {s : Store} {c : Commit} {snap : Snapshot}
    (h : s.prepare c = .ok snap) :
    ((commit c).run s).state = { s with snapshots := s.snapshots ++ [(c.name, snap)] } := by
  unfold commit
  rw [Action.run_bind_of_ok (Action.run_get s), h]
  rfl

lemma run_commit_of_error {s : Store} {c : Commit} {e : Failure} (h : s.prepare c = .error e) :
    (commit c).run s = ⟨.error e, s, []⟩ := by
  unfold commit
  rw [Action.run_bind_of_ok (Action.run_get s), h]
  rfl

lemma checked_of_forM {domain : KeyDomain} {ticks : List LooseTick}
    (h : ticks.forM (checkTick domain) = .ok ()) :
    ∀ u ∈ ticks, domain.covers u.tick = .ok true := by
  induction ticks with
  | nil => simp
  | cons u rest ih =>
    change (checkTick domain u >>= fun _ => rest.forM (checkTick domain)) = .ok () at h
    obtain ⟨_, hu, hrest⟩ := exists_of_bind_ok h
    intro v hv
    rcases List.mem_cons.mp hv with rfl | hv
    · unfold checkTick at hu
      obtain ⟨inside, hinside, hu⟩ := exists_of_bind_ok hu
      cases inside with
      | true => exact hinside
      | false => simp at hu
    · exact ih hrest v hv

lemma prepare_ok {s : Store} {c : Commit} {snap : Snapshot} (h : s.prepare c = .ok snap) :
    ∃ ticks entries, LooseTick.distinct c.ticks = .ok ticks ∧
      c.spacing.atMost (.int 0) = .ok false ∧
      (∀ u ∈ ticks, s.domain.covers u.tick = .ok true) ∧ s.lookup? c.name = .ok none ∧
      Snapshot.freeze ticks = .ok entries ∧
      Snapshot.ofLiquidity c.version c.spacing entries = .ok snap := by
  unfold prepare at h
  obtain ⟨ticks, hticks, h⟩ := exists_of_bind_ok h
  obtain ⟨low, hlow, h⟩ := exists_of_bind_ok h
  cases low with
  | true => simp at h
  | false =>
    obtain ⟨_, hchecked, h⟩ := exists_of_bind_ok h
    obtain ⟨found, hfound, h⟩ := exists_of_bind_ok h
    cases found with
    | some old => simp at h
    | none =>
      obtain ⟨entries, hentries, h⟩ := exists_of_bind_ok h
      exact ⟨ticks, entries, hticks, hlow, checked_of_forM hchecked, hfound, hentries, h⟩

lemma lookup?_of_prepare {s : Store} {c : Commit} {snap : Snapshot} (h : s.prepare c = .ok snap) :
    s.lookup? c.name = .ok none := by
  obtain ⟨_, _, -, -, -, hfound, -⟩ := prepare_ok h
  exact hfound

lemma indexed_of_prepare {s : Store} {c : Commit} {snap : Snapshot}
    (h : s.prepare c = .ok snap) : snap.Indexed := by
  obtain ⟨ticks, entries, -, -, -, -, hentries, hsnap⟩ := prepare_ok h
  exact Snapshot.indexed_of_ofLiquidity (Snapshot.foldlM_freeze_ok hentries List.nodup_nil).1 hsnap

lemma contains_of_prepare {s : Store} {c : Commit} {snap : Snapshot} (h : s.prepare c = .ok snap)
    {t : Int} (ht : snap.occupied t = true) : s.domain.contains t = true := by
  obtain ⟨ticks, entries, -, -, hchecked, -, hentries, hsnap⟩ := prepare_ok h
  obtain ⟨words, -, rfl⟩ := Snapshot.ofLiquidity_ok hsnap
  rw [Snapshot.occupied, ← Keyed.mem_keys_iff] at ht
  rcases (Snapshot.foldlM_freeze_ok hentries List.nodup_nil).2 t ht with hnone | ⟨u, hu, hut⟩
  · simp at hnone
  · exact KeyDomain.contains_of_covers (hchecked u hu) hut

/-- Every snapshot of a reachable store comes from a commit to a store over the same domain. -/
lemma Reachable.exists_prepare {s : Store} (h : s.Reachable) {name : Value} {snap : Snapshot}
    (hmem : (name, snap) ∈ s.snapshots) :
    ∃ before : Store, ∃ c : Commit, before.domain = s.domain ∧ before.prepare c = .ok snap := by
  induction h with
  | empty domain withinOneWord => simp [Store.empty] at hmem
  | @commit before hbefore c ih =>
    cases hprepare : before.prepare c with
    | error e =>
      rw [run_commit_of_error hprepare] at hmem ⊢
      exact ih hmem
    | ok added =>
      rw [state_commit_of_ok hprepare] at hmem ⊢
      rcases List.mem_append.mp hmem with hold | hnew
      · exact ih hold
      · rw [List.mem_singleton, Prod.mk.injEq] at hnew
        exact ⟨before, c, rfl, hnew.2 ▸ hprepare⟩

lemma mem_snapshots_of_snapshot {s : Store} {handle : Value} {snap : Snapshot}
    (h : s.snapshot handle = .ok snap) : ∃ name, (name, snap) ∈ s.snapshots := by
  unfold snapshot lookup? at h
  by_cases hkey : handle.isKey = true
  · rw [if_pos hkey] at h
    cases hfind : s.snapshots.find? (·.1.same handle) with
    | none => simp [hfind, bind, Except.bind] at h
    | some e =>
      simp only [hfind, bind, Except.bind, Option.map_some, Except.ok.injEq] at h
      exact ⟨e.1, h ▸ List.mem_of_find?_eq_some hfind⟩
  · simp [hkey, bind, Except.bind] at h

/-- The indexes of every committed snapshot agree. -/
theorem Reachable.indexed {s : Store} (h : s.Reachable) {handle : Value} {snap : Snapshot}
    (hsnap : s.snapshot handle = .ok snap) : snap.Indexed := by
  obtain ⟨name, hmem⟩ := mem_snapshots_of_snapshot hsnap
  obtain ⟨before, c, -, hprepare⟩ := h.exists_prepare hmem
  exact indexed_of_prepare hprepare

lemma Reachable.spacing_pos {s : Store} (h : s.Reachable) {handle : Value} {snap : Snapshot}
    (hsnap : s.snapshot handle = .ok snap) {spacing : Int}
    (hspacing : (Value.int spacing).same snap.spacing = true) : 0 < spacing := by
  obtain ⟨name, hmem⟩ := mem_snapshots_of_snapshot hsnap
  obtain ⟨before, c, -, hprepare⟩ := h.exists_prepare hmem
  obtain ⟨ticks, entries, -, hlow, -, -, -, hliquidity⟩ := prepare_ok hprepare
  obtain ⟨words, -, rfl⟩ := Snapshot.ofLiquidity_ok hliquidity
  exact Value.pos_of_same_int hspacing hlow

/-- The ticks of every committed snapshot are in the domain of the store. -/
theorem Reachable.contains_of_occupied {s : Store} (h : s.Reachable) {handle : Value}
    {snap : Snapshot} (hsnap : s.snapshot handle = .ok snap) {t : Int}
    (ht : snap.occupied t = true) : s.domain.contains t = true := by
  obtain ⟨name, hmem⟩ := mem_snapshots_of_snapshot hsnap
  obtain ⟨before, c, hdomain, hprepare⟩ := h.exists_prepare hmem
  exact hdomain ▸ contains_of_prepare hprepare ht

end TickWalk.Store
