import TickWalk.Proofs.Compositional
import TickWalk.Proofs.Scan.Agreement
import TickWalk.Proofs.Scan.Store
import TickWalk.Proofs.Store.Commit

/-!
# Histories of a store

A store is used by commits and reads in any order, each of which may fail. No use takes anything away:
the store that it leaves extends the one before, and a snapshot that has been committed is answered
in the same way ever after.
-/

namespace TickWalk

def Action.tried {σ α : Type} (x : Action σ α) : Action σ Unit := do
  let _ ← x.attempt
  pure ()

namespace Store

/-- A use of a store. -/
inductive Call
  | commit (c : Commit)
  | submit (form : CommitForm)
  | snapshot (handle : Value)
  | find (handle cursor : Value) (d : Direction) (spacing : Value)
  | fetch (handle tick : Value)
  | version (handle : Value)
  | scan (domain : KeyDomain) (form : RequestForm)

def Call.act : Call → Action Store Unit
  | commit c => (Store.commit c).tried
  | submit form => (Store.submit form).tried
  | snapshot handle => do
    let s ← Action.get
    (Action.lift (s.snapshot handle)).tried
  | find handle cursor d spacing => (provider.find handle cursor d spacing).tried
  | fetch handle tick => (provider.fetch handle tick).tried
  | version handle => (provider.version handle).tried
  | scan domain form => (Scanner.scan ⟨provider, domain⟩ form).tried

/-- The store after some uses, one after the other. -/
def after (s : Store) (calls : List Call) : Store :=
  calls.foldl (fun s call => (call.act.run s).state) s

/-- What the store `s` holds, `t` holds too. -/
structure Extends (s t : Store) : Prop where
  domain : t.domain = s.domain
  withinOneWord : t.withinOneWord = s.withinOneWord
  snapshots : ∃ added, t.snapshots = s.snapshots ++ added

variable {s t u : Store} {handle name : Value} {snap : Snapshot}

namespace Extends

lemma refl (s : Store) : s.Extends s := ⟨rfl, rfl, [], (List.append_nil _).symm⟩

lemma trans (h : s.Extends t) (h' : t.Extends u) : s.Extends u := by
  obtain ⟨added, hadded⟩ := h.snapshots
  obtain ⟨more, hmore⟩ := h'.snapshots
  refine ⟨h'.domain.trans h.domain, h'.withinOneWord.trans h.withinOneWord, added ++ more, ?_⟩
  rw [hmore, hadded, List.append_assoc]

lemma append (s : Store) (name : Value) (snap : Snapshot) :
    s.Extends { s with snapshots := s.snapshots ++ [(name, snap)] } :=
  ⟨rfl, rfl, [(name, snap)], rfl⟩

lemma lookup? (h : s.Extends t) (hsnap : s.lookup? handle = .ok (some snap)) :
    t.lookup? handle = .ok (some snap) := by
  obtain ⟨added, hadded⟩ := h.snapshots
  unfold Store.lookup? at hsnap ⊢
  by_cases hkey : handle.isKey = true
  · rw [if_pos hkey, Except.ok.injEq, Option.map_eq_some_iff] at hsnap
    obtain ⟨entry, hentry, rfl⟩ := hsnap
    rw [if_pos hkey, hadded, List.find?_append, hentry]
    rfl
  · rw [if_neg hkey] at hsnap
    cases hsnap

end Extends

lemma snapshot_eq_ok_iff : s.snapshot handle = .ok snap ↔ s.lookup? handle = .ok (some snap) := by
  unfold snapshot
  cases s.lookup? handle with
  | error e => simp [bind, Except.bind]
  | ok found => cases found <;> simp [bind, Except.bind]

lemma Extends.snapshot (h : s.Extends t) (hsnap : s.snapshot handle = .ok snap) :
    t.snapshot handle = .ok snap :=
  snapshot_eq_ok_iff.mpr (h.lookup? (snapshot_eq_ok_iff.mp hsnap))

/-- What is found after a snapshot has been added: the old ones, and the new one under its name. -/
lemma lookup?_append (s : Store) (name : Value) (snap : Snapshot) (handle : Value) :
    lookup? { s with snapshots := s.snapshots ++ [(name, snap)] } handle =
      (s.lookup? handle).map fun found => found.or (if name.same handle then some snap else none) := by
  unfold lookup?
  by_cases hkey : handle.isKey = true
  · rw [if_pos hkey, if_pos hkey, List.find?_append, Except.map, Except.ok.injEq]
    cases s.snapshots.find? (·.1.same handle) with
    | some entry => rfl
    | none => cases hsame : name.same handle <;> simp [hsame]
  · rw [if_neg hkey, if_neg hkey]
    rfl

/-- A commit that fails leaves the store as it was; one that succeeds answers its handle, which was
not in use, and adds a snapshot under it. -/
structure Appends (x : Action Store Value) (s : Store) (name : Value) : Prop where
  failed : ∀ e, (x.run s).result = .error e → (x.run s).state = s
  added : ∀ handle, (x.run s).result = .ok handle →
    handle = name ∧ s.lookup? name = .ok none ∧
      ∃ snap, (x.run s).state = { s with snapshots := s.snapshots ++ [(name, snap)] } ∧
        ∀ other, ((x.run s).state).lookup? other = (s.lookup? other).map fun found =>
          found.or (if name.same other then some snap else none)

lemma Appends.extends {x : Action Store Value} (h : Appends x s name) :
    s.Extends (x.run s).state := by
  cases hresult : (x.run s).result with
  | error e =>
    rw [h.failed e hresult]
    exact .refl s
  | ok handle =>
    obtain ⟨-, -, snap, hstate, -⟩ := h.added handle hresult
    rw [hstate]
    exact .append s name snap

theorem appends_commit (c : Commit) (s : Store) : Appends (commit c) s c.name := by
  cases hprepare : s.prepare c with
  | error e =>
    have hrun := run_commit_of_error hprepare
    refine ⟨fun _ _ => congrArg Outcome.state hrun, fun handle hresult => ?_⟩
    rw [hrun] at hresult
    cases hresult
  | ok snap =>
    constructor
    · intro e hresult
      rw [result_commit_of_ok hprepare] at hresult
      cases hresult
    · intro handle hresult
      rw [result_commit_of_ok hprepare] at hresult
      rw [state_commit_of_ok hprepare]
      exact ⟨(Except.ok.inj hresult).symm, lookup?_of_prepare hprepare, snap, rfl,
        lookup?_append s c.name snap⟩

theorem appends_submit (form : CommitForm) (s : Store) : Appends (submit form) s form.name := by
  cases hread : readForm s.domain form with
  | error e =>
    refine ⟨fun _ _ => ?_, fun handle hresult => ?_⟩
    · rw [run_submit_of_error hread]
    · rw [run_submit_of_error hread] at hresult
      cases hresult
  | ok c =>
    have hrun := run_submit_of_ok hread
    have hcommit := appends_commit c s
    rw [← name_of_readForm hread]
    constructor
    · rw [hrun]
      exact hcommit.failed
    · rw [hrun]
      exact hcommit.added

section Reads

lemma run_find (s : Store) (handle cursor : Value) (d : Direction) (spacing : Value) :
    (provider.find handle cursor d spacing).run s =
      ⟨(s.find handle cursor d spacing).map fun found => .list [.bool found.1, .int found.2], s,
        [.read (.find cursor)]⟩ := by
  unfold Provider.find provider
  rw [Action.run_bind_of_ok (Action.run_note _ s), Action.run_bind_of_ok (Action.run_get s)]
  cases s.find handle cursor d spacing <;> rfl

lemma run_fetch (s : Store) (handle tick : Value) :
    (provider.fetch handle tick).run s =
      ⟨(s.fetch handle tick).map fun l => .list [.int l.gross, .int l.net], s,
        [.read (.fetch tick)]⟩ := by
  unfold Provider.fetch provider
  rw [Action.run_bind_of_ok (Action.run_note _ s), Action.run_bind_of_ok (Action.run_get s)]
  cases s.fetch handle tick <;> rfl

lemma run_version (s : Store) (handle : Value) :
    (provider.version handle).run s = ⟨s.version handle, s, [.read .version]⟩ := rfl

variable (s : Store)

lemma keeps_find (handle cursor : Value) (d : Direction) (spacing : Value) :
    (provider.find handle cursor d spacing).Keeps s :=
  congrArg Outcome.state (run_find s handle cursor d spacing)

lemma keeps_fetch (handle tick : Value) : (provider.fetch handle tick).Keeps s :=
  congrArg Outcome.state (run_fetch s handle tick)

lemma keeps_version (handle : Value) : (provider.version handle).Keeps s :=
  congrArg Outcome.state (run_version s handle)

lemma candidate_of_find {handle cursor spacing candidate : Value} {d : Direction}
    (h : (provider.find handle cursor d spacing).MayAnswer candidate) :
    ∃ (flag : Value) (t : Int), candidate.pair = .ok (flag, .int t) := by
  obtain ⟨s, hs⟩ := h
  rw [run_find] at hs
  cases hfind : s.find handle cursor d spacing with
  | error e =>
    rw [hfind] at hs
    cases hs
  | ok found =>
    rw [hfind] at hs
    obtain rfl := Except.ok.inj hs
    exact ⟨.bool found.1, found.2, rfl⟩

lemma amounts_of_fetch {handle tick stored : Value}
    (h : (provider.fetch handle tick).MayAnswer stored) :
    ∃ gross net : Int, stored.pair = .ok (.int gross, .int net) := by
  obtain ⟨s, hs⟩ := h
  rw [run_fetch] at hs
  cases hfetch : s.fetch handle tick with
  | error e =>
    rw [hfetch] at hs
    cases hs
  | ok l =>
    rw [hfetch] at hs
    obtain rfl := Except.ok.inj hs
    exact ⟨l.gross, l.net, rfl⟩

lemma reads_keep (domain : KeyDomain) (handle : Value) :
    provider.Reads (fun _ x => x.Keeps s) domain handle :=
  ⟨fun _ _ _ _ _ => keeps_find s handle _ _ _, fun _ _ _ _ h => candidate_of_find h,
    fun _ _ => keeps_fetch s handle _, fun _ _ h => amounts_of_fetch h, keeps_version s handle⟩

/-- No scan changes the store, whether it returns or fails. -/
theorem keeps_scan (domain : KeyDomain) (form : RequestForm) :
    (Scanner.scan ⟨provider, domain⟩ form).Keeps s :=
  Scanner.scan_compositional (Action.keeps_compositional s) (reads_keep s domain form.snapshot)

end Reads

lemma state_act (call : Call) (s : Store) :
    (call.act.run s).state = s ∨ ∃ c, (call.act.run s).state = ((Store.commit c).run s).state := by
  cases call with
  | commit c => exact .inr ⟨c, rfl⟩
  | submit form =>
    change ((Store.submit form).run s).state = s ∨
      ∃ c, ((Store.submit form).run s).state = ((Store.commit c).run s).state
    cases hread : readForm s.domain form with
    | ok c =>
      right
      exact ⟨c, congrArg Outcome.state (run_submit_of_ok hread)⟩
    | error e =>
      left
      rw [run_submit_of_error hread]
  | snapshot handle => exact .inl (Action.keeps_lift (s.snapshot handle) s)
  | find handle cursor d spacing => exact .inl (keeps_find s handle cursor d spacing)
  | fetch handle tick => exact .inl (keeps_fetch s handle tick)
  | version handle => exact .inl (keeps_version s handle)
  | scan domain form => exact .inl (keeps_scan s domain form)

lemma extends_act (call : Call) (s : Store) : s.Extends (call.act.run s).state := by
  rcases state_act call s with hstate | ⟨c, hstate⟩
  · rw [hstate]
    exact .refl s
  · rw [hstate]
    exact (appends_commit c s).extends

/-- The uses of a store together extend it. -/
theorem extends_after (calls : List Call) (s : Store) : s.Extends (s.after calls) := by
  induction calls generalizing s with
  | nil => exact .refl s
  | cons call rest ih => exact (extends_act call s).trans (ih _)

lemma reachable_act (h : s.Reachable) (call : Call) : (call.act.run s).state.Reachable := by
  rcases state_act call s with hstate | ⟨c, hstate⟩
  · rwa [hstate]
  · rw [hstate]
    exact h.commit c

lemma reachable_after (h : s.Reachable) (calls : List Call) : (s.after calls).Reachable := by
  induction calls generalizing s with
  | nil => exact h
  | cons call rest ih => exact ih (reachable_act h call)

/-- Everything that `s` answers about a handle, `t` answers too. -/
structure SameAnswers (s t : Store) (handle : Value) : Prop where
  snapshot : t.snapshot handle = s.snapshot handle
  find : ∀ cursor d spacing, ((provider.find handle cursor d spacing).run t).result =
    ((provider.find handle cursor d spacing).run s).result
  fetch : ∀ tick, ((provider.fetch handle tick).run t).result =
    ((provider.fetch handle tick).run s).result
  version : ((provider.version handle).run t).result = ((provider.version handle).run s).result
  scan : ∀ domain form, form.snapshot = handle →
    ((Scanner.scan ⟨provider, domain⟩ form).run t).result =
      ((Scanner.scan ⟨provider, domain⟩ form).run s).result

namespace Extends

lemma find (h : s.Extends t) (hsnap : s.snapshot handle = .ok snap) (cursor : Value) (d : Direction)
    (spacing : Value) : t.find handle cursor d spacing = s.find handle cursor d spacing := by
  unfold Store.find findIn
  rw [hsnap, h.snapshot hsnap, h.domain, h.withinOneWord]

lemma fetch (h : s.Extends t) (hsnap : s.snapshot handle = .ok snap) (tick : Value) :
    t.fetch handle tick = s.fetch handle tick := by
  unfold Store.fetch
  rw [hsnap, h.snapshot hsnap]

lemma version (h : s.Extends t) (hsnap : s.snapshot handle = .ok snap) :
    t.version handle = s.version handle := by
  unfold Store.version
  rw [hsnap, h.snapshot hsnap]

lemma alike (h : s.Extends t) (hsnap : s.snapshot handle = .ok snap) (domain : KeyDomain)
    (given : Value) : provider.Alike provider domain handle given fun a b => a = s ∧ b = t := by
  constructor
  · intro d spacing _
    constructor
    · rintro _ _ cursor ⟨rfl, rfl⟩ -
      rw [run_find, run_find, h.find hsnap]
      refine ⟨?_, rfl, rfl, rfl⟩
      cases Store.find _ handle (.int cursor) d (.int spacing) with
      | ok found => exact .ok ⟨_, _, rfl, rfl⟩
      | error e => exact .error e
    · rintro _ _ tick ⟨rfl, rfl⟩ -
      rw [run_fetch, run_fetch, h.fetch hsnap]
      refine ⟨?_, rfl, rfl, rfl⟩
      cases Store.fetch _ handle (.int tick) with
      | ok l => exact .ok ⟨_, _, rfl, rfl⟩
      | error e => exact .error e
  · rintro _ _ ⟨rfl, rfl⟩
    rw [run_version, run_version, h.version hsnap]
    refine ⟨?_, rfl, rfl, rfl⟩
    cases Store.version _ handle with
    | ok version => exact .ok rfl
    | error e => exact .error e

theorem sameAnswers (h : s.Extends t) (hsnap : s.snapshot handle = .ok snap) :
    s.SameAnswers t handle := by
  constructor
  · rw [hsnap, h.snapshot hsnap]
  · intro cursor d spacing
    rw [run_find, run_find, h.find hsnap]
  · intro tick
    rw [run_fetch, run_fetch, h.fetch hsnap]
  · rw [run_version, run_version, h.version hsnap]
  · rintro domain form rfl
    have halike := h.alike hsnap domain form.spacing
    exact (Scanner.scan_agrees_of_alike form halike ⟨rfl, rfl⟩).result.eq.symm

end Extends

/-- A store to which the commit was made, whatever has been done with the store before and after. -/
def HasCommitted (s : Store) (c : Commit) : Prop :=
  ∃ before : Store, before.Reachable ∧ ∃ calls,
    (∃ name, ((commit c).run before).result = .ok name) ∧
      s = ((commit c).run before).state.after calls

lemma HasCommitted.reachable {c : Commit} (h : s.HasCommitted c) : s.Reachable := by
  obtain ⟨before, hbefore, calls, -, rfl⟩ := h
  exact reachable_after (hbefore.commit c) calls

/-- A store has a snapshot under a name, and answers with it when the name is equal to itself. -/
structure Holds (s : Store) (name : Value) (snap : Snapshot) : Prop where
  mem : (name, snap) ∈ s.snapshots
  found : name.same name = true → s.snapshot name = .ok snap

lemma Extends.holds (h : s.Extends t) (hsnap : s.Holds name snap) : t.Holds name snap := by
  obtain ⟨added, hadded⟩ := h.snapshots
  constructor
  · rw [hadded]
    exact List.mem_append_left added hsnap.mem
  · exact fun hname => h.snapshot (hsnap.found hname)

lemma HasCommitted.exists_holds {c : Commit} (h : s.HasCommitted c) :
    ∃ before snap, prepare before c = .ok snap ∧ s.Holds c.name snap := by
  obtain ⟨before, -, calls, ⟨name, hresult⟩, rfl⟩ := h
  cases hprepare : before.prepare c with
  | error e =>
    rw [run_commit_of_error hprepare] at hresult
    cases hresult
  | ok snap =>
    refine ⟨before, snap, hprepare, (extends_after calls _).holds ?_⟩
    rw [state_commit_of_ok hprepare]
    constructor
    · exact List.mem_append_right _ List.mem_cons_self
    · intro hname
      rw [snapshot_eq_ok_iff, lookup?_append, lookup?_of_prepare hprepare, hname]
      rfl

/-- A store only grows. A commit, of whatever values, adds one snapshot under a handle that was not in
use, or fails and leaves the store as it was; integer ticks are committed exactly when they are
accepted, also when they are handed in as a map; and whatever is done with the store afterwards, a
committed snapshot is answered as before. -/
theorem history_only_grows (s : Store) :
    (∀ c, Appends (commit c) s c.name) ∧ (∀ form, Appends (submit form) s form.name) ∧
      (∀ entries version spacing handle, (entries.map (·.1)).Nodup →
        let c := Commit.ofMap entries version spacing handle
        ((∃ name, ((commit c).run s).result = .ok name) ↔ s.Accepts entries spacing c.name) ∧
          (submit c.form).run s = (commit c).run s) ∧
      ∀ calls handle snap, s.snapshot handle = .ok snap → s.SameAnswers (s.after calls) handle := by
  refine ⟨fun c => appends_commit c s, fun form => appends_submit form s, ?_, ?_⟩
  · intro entries version spacing handle hnodup c
    exact ⟨commit_ofMap_ok_iff hnodup, submit_form (LooseTick.distinct_ofEntry hnodup) s⟩
  · intro calls handle snap hsnap
    exact (extends_after calls s).sameAnswers hsnap

/-- Commits of a taken handle, of a tick that is no multiple of the spacing and of a tick without a pair
fail, as does a scan from outside; then one commit succeeds. -/
theorem history_only_grows_over_failures :
    let entries : Keyed Liquidity := [(10, ⟨5, 5⟩), (-20, ⟨1, -1⟩)]
    let c := Commit.ofMap entries (.int 7) 10 .null
    let s := empty ⟨-100, 100⟩ true
    let first := ((commit c).run s).state
    let calls : List Call := [.commit c, .commit (.ofMap [(5, ⟨1, 1⟩)] (.int 8) 10 .null),
      .submit ⟨.ok [(.int 10, .int 3)], .int 8, .int 10, .null⟩,
      .scan ⟨-100, 100⟩ ⟨.int 7, .int 500, .ok .inclusive, .int 1, .int 10⟩,
      .commit (.ofMap [(30, ⟨2, 2⟩)] (.int 8) 10 .null)]
    (entries.map (·.1)).Nodup ∧ (∃ name, ((commit c).run s).result = .ok name) ∧
      (∃ snap, first.snapshot (.int 7) = .ok snap) ∧ first.SameAnswers (first.after calls) (.int 7) ∧
      (first.after calls).snapshots.map (·.1) = [.int 7, .int 8] := by
  intro entries c s first calls
  have hnodup : (entries.map (·.1)).Nodup := by decide
  have haccepts : s.Accepts entries 10 c.name := by
    refine ⟨by decide, by decide, by decide, by decide, rfl, ?_⟩
    intro old hold
    cases hold
  have hcommitted := ((history_only_grows s).2.2.1 entries (.int 7) 10 .null hnodup).1.mpr haccepts
  let snap : Snapshot :=
    ⟨.int 7, .int 10, [(0, 2), (-1, 2 ^ 254)], entries, [10, -20].mergeSort⟩
  have hsnap : first.snapshot (.int 7) = .ok snap := rfl
  exact ⟨hnodup, hcommitted, ⟨snap, hsnap⟩, (history_only_grows first).2.2.2 calls _ _ hsnap, rfl⟩

end Store

end TickWalk
