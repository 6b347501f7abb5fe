import TickWalk.Store.Form
import TickWalk.Proofs.Store.Reachable
import Mathlib.Data.List.Basic

/-!
# Which commits succeed

A commit of integer ticks under a positive spacing adds exactly the snapshot of its ticks. It is
refused when a tick is outside the domain, is no multiple of the spacing or has negative gross
liquidity, or when the handle cannot name anything or is taken.
-/

namespace TickWalk

/-- A tick of a map of integers, as a commit gives it. -/
def LooseTick.ofEntry (e : Int × Liquidity) : LooseTick := ⟨.int e.1, .int e.2.gross, .int e.2.net⟩

/-- The commit of a map of integer ticks. -/
def Commit.ofMap (entries : Keyed Liquidity) (version : Value) (spacing : Int) (handle : Value) :
    Commit :=
  ⟨entries.map LooseTick.ofEntry, version, .int spacing, handle⟩

namespace LooseTick

lemma put_fresh {ticks : List LooseTick} {t : LooseTick}
    (h : ∀ u ∈ ticks, u.tick.same t.tick = false) : put ticks t = ticks ++ [t] := by
  induction ticks with
  | nil => rfl
  | cons u rest ih =>
    rw [List.forall_mem_cons] at h
    rw [put, h.1, if_neg Bool.false_ne_true, ih h.2]
    rfl

lemma foldl_put_fresh {ticks more : List LooseTick}
    (h : (ticks ++ more).Pairwise fun u v => u.tick.same v.tick = false) :
    more.foldl put ticks = ticks ++ more := by
  induction more generalizing ticks with
  | nil => exact (List.append_nil ticks).symm
  | cons t rest ih =>
    have hfresh : ∀ u ∈ ticks, u.tick.same t.tick = false := fun u hu =>
      (List.pairwise_append.mp h).2.2 u hu t List.mem_cons_self
    rw [List.append_cons] at h
    rw [List.foldl_cons, put_fresh hfresh, ih h, List.append_assoc, List.singleton_append]

lemma distinct_ofEntry {entries : Keyed Liquidity} (h : (entries.map (·.1)).Nodup) :
    distinct (entries.map ofEntry) = .ok (entries.map ofEntry) := by
  have hkeys : (entries.map ofEntry).all (·.tick.isKey) = true := by
    rw [List.all_map, List.all_eq_true]
    exact fun _ _ => rfl
  have hdiffer : (entries.map ofEntry).Pairwise fun u v => u.tick.same v.tick = false := by
    rw [List.pairwise_map]
    refine (List.pairwise_map.mp h).imp fun hne => ?_
    rw [ofEntry, ofEntry, Value.same_int, beq_eq_false_iff_ne]
    exact hne
  rw [distinct, hkeys, if_pos rfl, foldl_put_fresh hdiffer, List.nil_append]

end LooseTick

namespace Snapshot

lemma foldlM_freeze_ofEntry {entries more : Keyed Liquidity}
    (h : ((entries ++ more).map (·.1)).Nodup) :
    (more.map LooseTick.ofEntry).foldlM freeze.add entries = .ok (entries ++ more) := by
  induction more generalizing entries with
  | nil =>
    rw [List.append_nil]
    rfl
  | cons e rest ih =>
    have hfresh : e.1 ∉ entries.map (·.1) := by
      rw [List.map_append, List.map_cons] at h
      exact fun hmem => (List.nodup_append.mp h).2.2 _ hmem _ List.mem_cons_self rfl
    rw [List.append_cons] at h
    have hadd : freeze.add entries (.ofEntry e) = .ok (entries ++ [e]) :=
      congrArg Except.ok (Keyed.put_fresh hfresh ⟨e.2.gross, e.2.net⟩)
    rw [List.map_cons, List.foldlM_cons, hadd, ok_bind, ih h, List.append_assoc,
      List.singleton_append]

lemma freeze_ofEntry {entries : Keyed Liquidity} (h : (entries.map (·.1)).Nodup) :
    freeze (entries.map LooseTick.ofEntry) = .ok entries :=
  foldlM_freeze_ofEntry h

lemma addTick_int (spacing : Int) (words : Words) (tick : Int) :
    addTick (.int spacing) words tick = Bitmap.build.add spacing words tick := by
  unfold addTick aligned Bitmap.build.add Bitmap.compress
  simp only [Value.whole?]
  by_cases hzero : spacing = 0
  · rw [if_pos hzero, if_pos hzero]
    rfl
  · rw [if_neg hzero, if_neg hzero, ok_bind, ok_bind]
    by_cases hmod : tick.fmod spacing = 0
    · simp [hmod]
    · simp [hmod]

lemma ofLiquidity_int (version : Value) (spacing : Int) (entries : Keyed Liquidity) :
    ofLiquidity version (.int spacing) entries = (do
      let words ← Bitmap.build spacing (entries.map (·.1))
      .ok ⟨version, .int spacing, words, entries, (entries.map (·.1)).mergeSort⟩) := by
  have hadd : addTick (.int spacing) = Bitmap.build.add spacing := by
    funext words tick
    exact addTick_int spacing words tick
  rw [ofLiquidity, hadd, Bitmap.build]

end Snapshot

lemma Bitmap.foldlM_add_ok_iff {spacing : Int} (hpos : 0 < spacing) {ticks : List Int}
    {words : Words} :
    (∃ words', ticks.foldlM (Bitmap.build.add spacing) words = .ok words') ↔
      ∀ t ∈ ticks, t % spacing = 0 := by
  induction ticks generalizing words with
  | nil => exact ⟨fun _ _ h => absurd h List.not_mem_nil, fun _ => ⟨words, rfl⟩⟩
  | cons t rest ih =>
    rw [List.foldlM_cons, List.forall_mem_cons, Bitmap.build.add, Bitmap.compress,
      if_neg hpos.ne', ok_bind, Int.fmod_eq_emod_of_nonneg _ hpos.le]
    by_cases hmod : t % spacing = 0
    · rw [if_neg (not_not.mpr hmod), ok_bind, ih]
      exact (and_iff_right hmod).symm
    · rw [if_pos hmod]
      constructor
      · rintro ⟨words', hwords⟩
        cases hwords
      · exact fun h => absurd h.1 hmod

lemma Bitmap.build_ok_iff {spacing : Int} (hpos : 0 < spacing) {ticks : List Int} :
    (∃ words, build spacing ticks = .ok words) ↔ ∀ t ∈ ticks, t % spacing = 0 :=
  foldlM_add_ok_iff hpos

namespace Store

lemma forM_ok_iff {α : Type} {f : α → Except Failure Unit} {items : List α} :
    items.forM f = .ok () ↔ ∀ a ∈ items, f a = .ok () := by
  induction items with
  | nil => exact ⟨fun _ _ h => absurd h List.not_mem_nil, fun _ => rfl⟩
  | cons a rest ih =>
    rw [List.forall_mem_cons, ← ih]
    change (f a >>= fun _ => rest.forM f) = .ok () ↔ _
    cases f a with
    | error e =>
      constructor
      · intro h
        cases h
      · rintro ⟨h, -⟩
        cases h
    | ok u => exact (and_iff_right rfl).symm

lemma checkTick_ofEntry (d : KeyDomain) (e : Int × Liquidity) :
    checkTick d (.ofEntry e) = .ok () ↔ d.contains e.1 = true ∧ 0 ≤ e.2.gross := by
  rw [checkTick, LooseTick.ofEntry, KeyDomain.covers_int, ok_bind]
  cases hin : d.contains e.1 with
  | false => simp
  | true =>
    by_cases hlow : e.2.gross < 0
    · simp [hlow, ok_bind]
    · simp [hlow, ok_bind, Int.not_lt.mp hlow]

lemma lookup?_eq_ok_none_iff {s : Store} {name : Value} :
    s.lookup? name = .ok none ↔
      name.isKey = true ∧ ∀ old ∈ s.snapshots, old.1.same name = false := by
  unfold lookup?
  by_cases hkey : name.isKey = true
  · rw [if_pos hkey, Except.ok.injEq, Option.map_eq_none_iff, List.find?_eq_none]
    simp [hkey]
  · rw [if_neg hkey]
    constructor
    · intro h
      cases h
    · exact fun h => absurd h.1 hkey

variable {s : Store} {entries : Keyed Liquidity} {version handle : Value} {spacing : Int}

/-- What a map of integer ticks has to satisfy to be committed under a name. -/
structure Accepts (s : Store) (entries : Keyed Liquidity) (spacing : Int) (name : Value) : Prop where
  positive : 0 < spacing
  contains : ∀ e ∈ entries, s.domain.contains e.1 = true
  aligned : ∀ e ∈ entries, e.1 % spacing = 0
  gross : ∀ e ∈ entries, 0 ≤ e.2.gross
  isKey : name.isKey = true
  fresh : ∀ old ∈ s.snapshots, old.1.same name = false

/-- The snapshot of a map of integer ticks is the map with its bitmap and its ticks in order. -/
theorem prepare_ofMap_eq_ok_iff (h : (entries.map (·.1)).Nodup) {snap : Snapshot} :
    s.prepare (.ofMap entries version spacing handle) = .ok snap ↔
      s.Accepts entries spacing (Commit.ofMap entries version spacing handle).name ∧
        ∃ words, Bitmap.build spacing (entries.map (·.1)) = .ok words ∧
          snap = ⟨version, .int spacing, words, entries, (entries.map (·.1)).mergeSort⟩ := by
  have hbound : Commit.spacing (.ofMap entries version spacing handle) = .int spacing := rfl
  have hticks : Commit.ticks (.ofMap entries version spacing handle) =
      entries.map LooseTick.ofEntry := rfl
  unfold prepare
  rw [hticks, hbound, LooseTick.distinct_ofEntry h, ok_bind, Value.atMost_int, ok_bind]
  constructor
  · -- Every check that is passed on the way gives one of the conditions, and the bitmap the last.
    intro hprepare
    by_cases hlow : spacing ≤ 0
    · rw [decide_eq_true hlow, if_pos rfl] at hprepare
      cases hprepare
    · rw [decide_eq_false hlow, if_neg Bool.false_ne_true] at hprepare
      obtain ⟨_, hchecked, hprepare⟩ := exists_of_bind_ok hprepare
      obtain ⟨found, hfound, hprepare⟩ := exists_of_bind_ok hprepare
      cases found with
      | some old => cases hprepare
      | none =>
        rw [Snapshot.freeze_ofEntry h, ok_bind, Snapshot.ofLiquidity_int] at hprepare
        obtain ⟨words, hwords, hsnap⟩ := exists_of_bind_ok hprepare
        have hpos := Int.not_le.mp hlow
        obtain ⟨hkey, hfresh⟩ := lookup?_eq_ok_none_iff.mp hfound
        have hentries := List.forall_mem_map.mp (forM_ok_iff.mp hchecked)
        have haligned := (Bitmap.build_ok_iff hpos).mp ⟨words, hwords⟩
        refine ⟨⟨hpos, ?_, ?_, ?_, hkey, hfresh⟩, words, hwords, (Except.ok.inj hsnap).symm⟩
        · exact fun e he => ((checkTick_ofEntry _ e).mp (hentries e he)).1
        · exact fun e he => haligned _ (List.mem_map_of_mem he)
        · exact fun e he => ((checkTick_ofEntry _ e).mp (hentries e he)).2
  · rintro ⟨haccepts, words, hwords, rfl⟩
    have hchecked : (entries.map LooseTick.ofEntry).forM (checkTick s.domain) = .ok () := by
      rw [forM_ok_iff, List.forall_mem_map]
      exact fun e he => (checkTick_ofEntry _ e).mpr ⟨haccepts.contains e he, haccepts.gross e he⟩
    rw [decide_eq_false (Int.not_le.mpr haccepts.positive), if_neg Bool.false_ne_true, hchecked,
      ok_bind, lookup?_eq_ok_none_iff.mpr ⟨haccepts.isKey, haccepts.fresh⟩, ok_bind]
    dsimp only
    rw [Snapshot.freeze_ofEntry h, ok_bind, Snapshot.ofLiquidity_int, hwords, ok_bind]
    rfl

lemma result_commit_of_ok {c : Commit} {snap : Snapshot} (h : s.prepare c = .ok snap) :
    ((commit c).run s).result = .ok c.name := by
  unfold commit
  rw [Action.run_bind_of_ok (Action.run_get s), h]
  rfl

/-- A commit of integer ticks succeeds exactly when they are accepted under its name. -/
theorem commit_ofMap_ok_iff (h : (entries.map (·.1)).Nodup) :
    (∃ name, ((commit (.ofMap entries version spacing handle)).run s).result = .ok name) ↔
      s.Accepts entries spacing (Commit.ofMap entries version spacing handle).name := by
  constructor
  · rintro ⟨name, hname⟩
    cases hprepare : s.prepare (.ofMap entries version spacing handle) with
    | ok snap => exact ((prepare_ofMap_eq_ok_iff h).mp hprepare).1
    | error e =>
      rw [run_commit_of_error hprepare] at hname
      cases hname
  · intro haccepts
    obtain ⟨words, hwords⟩ := (Bitmap.build_ok_iff haccepts.positive).mpr
      (List.forall_mem_map.mpr haccepts.aligned)
    exact ⟨_, result_commit_of_ok
      ((prepare_ofMap_eq_ok_iff h).mpr ⟨haccepts, words, hwords, rfl⟩)⟩

lemma mapM_readEntry (d : KeyDomain) (ticks : List LooseTick) :
    (ticks.map fun t => (t.tick, Value.list [t.gross, t.net])).mapM (readEntry d) = (do
      ticks.forM (checkTick d)
      .ok ticks) := by
  induction ticks with
  | nil => rfl
  | cons t rest ih =>
    have hentry : readEntry d (t.tick, .list [t.gross, t.net]) = (do
        checkTick d t
        .ok t) := rfl
    have hforM : (t :: rest).forM (checkTick d) = (do
        checkTick d t
        rest.forM (checkTick d)) := rfl
    rw [List.map_cons, List.mapM_cons, ih, hentry, hforM]
    cases checkTick d t with
    | error e => rfl
    | ok u => cases rest.forM (checkTick d) <;> rfl

lemma readForm_form (d : KeyDomain) (c : Commit) : readForm d c.form = (do
    if ← c.spacing.atMost (.int 0) then Failure.refuse (.spacingNotPositive c.spacing)
    else
      c.ticks.forM (checkTick d)
      .ok c) := by
  unfold readForm Commit.form
  refine bind_congr fun low => ?_
  cases low with
  | true => rfl
  | false =>
    simp only [mapM_readEntry, bind_assoc]
    rfl

lemma readForm_form_cases {c : Commit} (h : LooseTick.distinct c.ticks = .ok c.ticks) (s : Store) :
    readForm s.domain c.form = .ok c ∨
      ∃ e, readForm s.domain c.form = .error e ∧ s.prepare c = .error e := by
  rw [readForm_form]
  unfold prepare
  rw [h, ok_bind]
  cases c.spacing.atMost (.int 0) with
  | error e => exact .inr ⟨e, rfl, rfl⟩
  | ok low =>
    cases low with
    | true => exact .inr ⟨_, rfl, rfl⟩
    | false =>
      cases c.ticks.forM (checkTick s.domain) with
      | error e => exact .inr ⟨e, rfl, rfl⟩
      | ok u => exact .inl rfl

lemma run_submit_of_ok {form : CommitForm} {c : Commit} (h : readForm s.domain form = .ok c) :
    (submit form).run s = (commit c).run s := by
  unfold submit
  rw [Action.run_bind_of_ok (Action.run_get s), h]
  rfl

lemma run_submit_of_error {form : CommitForm} {e : Failure} (h : readForm s.domain form = .error e) :
    (submit form).run s = ⟨.error e, s, []⟩ := by
  unfold submit
  rw [Action.run_bind_of_ok (Action.run_get s), h]
  rfl

lemma name_of_readForm {d : KeyDomain} {form : CommitForm} {c : Commit}
    (h : readForm d form = .ok c) : c.name = form.name := by
  unfold readForm at h
  obtain ⟨low, -, h⟩ := exists_of_bind_ok h
  cases low with
  | true => cases h
  | false =>
    rw [if_neg Bool.false_ne_true] at h
    cases hliquidity : form.liquidity with
    | error given =>
      rw [hliquidity] at h
      cases h
    | ok entries =>
      rw [hliquidity] at h
      obtain ⟨ticks, -, h⟩ := exists_of_bind_ok h
      rw [← Except.ok.inj h]
      rfl

/-- Handing in a map of pairs whose ticks differ is the commit of these pairs. -/
theorem submit_form {c : Commit} (h : LooseTick.distinct c.ticks = .ok c.ticks) (s : Store) :
    (submit c.form).run s = (commit c).run s := by
  rcases readForm_form_cases h s with hread | ⟨e, hread, hprepare⟩
  · exact run_submit_of_ok hread
  · rw [run_submit_of_error hread]
    unfold commit
    rw [Action.run_bind_of_ok (Action.run_get s), hprepare]
    rfl

end Store

end TickWalk
