import TickWalk.Proofs.Chain.View
import TickWalk.Proofs.Load.Agreement
import TickWalk.Proofs.Scan.Progress
import TickWalk.Proofs.Store.History

/-!
# The chain and the store agree

A node that holds a map of ticks at a block, seen through a view of the pool, and a store to which the
map was committed under the number of the block answer every search alike. Scans and loads cannot
tell which of the two they read.
-/

namespace TickWalk

variable {v : StateView} {node : Node} {st : Store} {entries : Keyed Liquidity} {block : Nat}
  {spacing : Int} {domain : KeyDomain}

lemma Store.HasCommitted.exists_words (hnodup : (entries.map (·.1)).Nodup)
    (h : st.HasCommitted (.ofMap entries (.int block) spacing .null)) :
    0 < spacing ∧ ∃ words, Bitmap.build spacing (entries.map (·.1)) = .ok words ∧
      st.snapshot (.int block) =
        .ok ⟨.int block, .int spacing, words, entries, (entries.map (·.1)).mergeSort⟩ := by
  obtain ⟨before, snap, hprepare, hholds⟩ := h.exists_holds
  have hsnap := hholds.found (Value.same_int_self block)
  obtain ⟨haccepts, words, hwords, rfl⟩ := (Store.prepare_ofMap_eq_ok_iff hnodup).mp hprepare
  exact ⟨haccepts.positive, words, hwords, hsnap⟩

variable {words : Words} {sorted : List Int} {cursor : Int}

lemma Store.quiet_find (hmode : st.withinOneWord = true)
    (hsnap : st.snapshot (.int block) =
      .ok ⟨.int block, .int spacing, words, entries, sorted⟩)
    {d : Direction} {probe : Bitmap.Probe} (hprobe : Bitmap.Probe.at? d spacing cursor = .ok probe) :
    (Store.provider.answerFind (.int block) (.int cursor) d (.int spacing)).Quiet st
      (probe.answerValue (words.get probe.word)) st := by
  have hfind : st.find (.int block) (.int cursor) d (.int spacing) =
      .ok (probe.answer (words.get probe.word)) := by
    rw [find_of_snapshot hsnap (Value.same_int_self spacing), findIn, if_pos hmode,
      Bitmap.search_at_hand hprobe]
  apply (Action.quiet_get st).bind
  rw [hfind, Action.lift_ok_bind]
  exact Action.quiet_lift _ st

lemma Store.quiet_fetch
    (hsnap : st.snapshot (.int block) =
      .ok ⟨.int block, .int spacing, words, entries, sorted⟩) (t : Int) :
    (Store.provider.answerFetch (.int block) (.int t)).Quiet st
      (.list [.int (entries.liquidityAt t).gross, .int (entries.liquidityAt t).net]) st := by
  have hfetch : st.fetch (.int block) (.int t) = .ok (entries.liquidityAt t) := by
    rw [fetch, hsnap, ok_bind, liquidityAt_int]
    rfl
  apply (Action.quiet_get st).bind
  rw [hfetch, Action.lift_ok_bind]
  exact Action.quiet_lift _ st

lemma Store.quiet_version
    (hsnap : st.snapshot (.int block) =
      .ok ⟨.int block, .int spacing, words, entries, sorted⟩) :
    (Store.provider.answerVersion (.int block)).Quiet st (.int block) st := by
  apply (Action.quiet_get st).bind
  rw [Store.version, hsnap]
  exact Action.quiet_lift _ st

section

variable {form : RequestForm} (hs : st.Reachable)
  (hsnap : st.snapshot form.snapshot = .ok ⟨.int block, .int spacing, words, entries, sorted⟩)
  (hspacing : form.spacing = .int spacing) (hpos : 0 < spacing)

include hs hsnap hspacing hpos

variable (domain) in
lemma Store.scan_cases :
    (∃ fault, form.read domain = .error fault ∧
      ((Scanner.scan ⟨provider, domain⟩ form).run st).result =
        .error (Failure.request fault).told) ∨
    ∃ request, form.read domain = .ok request ∧
      ((Scanner.slotLimit < request.maxSteps ∧
          ((Scanner.scan ⟨provider, domain⟩ form).run st).result =
            .error (Scanner.noRoom request.maxSteps)) ∨
        (request.maxSteps ≤ Scanner.slotLimit ∧
          ∃ result, ((Scanner.scan ⟨provider, domain⟩ form).run st).result = .ok result)) := by
  rcases form.ready_cases domain with
    ⟨fault, hread, hready⟩ | ⟨request, hcheck, ⟨hlarge, hready⟩ | ⟨hroom, -⟩⟩
  · refine .inl ⟨fault, hread, ?_⟩
    rw [Scanner.scan_of_ready_error hready, Action.run_lift]
  · refine .inr ⟨request, RequestForm.check_eq_ok_iff_read.mp hcheck, .inl ⟨hlarge, ?_⟩⟩
    rw [Scanner.scan_of_ready_error hready, Action.run_lift]
  · refine .inr ⟨request, RequestForm.check_eq_ok_iff_read.mp hcheck, .inr ⟨hroom, ?_⟩⟩
    obtain ⟨rfl, -, -⟩ := RequestForm.check_eq_ok_iff.mp hcheck
    obtain rfl : request.spacing = spacing := Value.int.inj hspacing
    obtain ⟨records, hwalk⟩ := exists_yields_walk hs hsnap hpos
      (Value.same_int_self request.spacing) request.maxSteps 0 request.start
    exact ⟨_, (yields_scan hcheck hroom hsnap hwalk).result⟩

/-- Such a scan returns or is refused as its request exactly when the fault of the request can be told, or
its slots can be laid out. -/
lemma Store.scan_ok_or_refused_iff :
    ((∃ result, ((Scanner.scan ⟨provider, domain⟩ form).run st).result = .ok result) ∨
        ∃ fault, form.read domain = .error fault ∧
          ((Scanner.scan ⟨provider, domain⟩ form).run st).result = .error (.request fault)) ↔
      (∀ fault, form.read domain = .error fault → ∀ v ∈ fault.shows, v.isShort = true) ∧
        ∀ request, form.read domain = .ok request → request.maxSteps ≤ Scanner.slotLimit := by
  rcases scan_cases domain hs hsnap hspacing hpos with
    ⟨fault, hread, htold⟩ | ⟨request, hread, ⟨hlarge, htold⟩ | ⟨hroom, hresult⟩⟩
  · rw [htold, hread]
    constructor
    · rintro (⟨_, ⟨⟩⟩ | ⟨_, ⟨rfl⟩, hsame⟩)
      refine ⟨?_, fun _ h => nomatch h⟩
      rintro _ ⟨rfl⟩
      exact (Failure.told_request_iff fault).mp (Except.error.inj hsame)
    · rintro ⟨hshort, -⟩
      have hsame := (Failure.told_request_iff fault).mpr (hshort fault rfl)
      exact .inr ⟨fault, rfl, congrArg Except.error hsame⟩
  · rw [htold, hread]
    constructor
    · rintro (⟨_, ⟨⟩⟩ | ⟨_, ⟨⟩, _⟩)
    · rintro ⟨-, hroom⟩
      exact absurd (hroom request rfl) (Nat.not_le.mpr hlarge)
  · rw [hread]
    refine iff_of_true (.inl hresult) ⟨?_, ?_⟩
    · intro _ hnone
      cases hnone
    · rintro _ ⟨rfl⟩
      exact hroom

end

/-- A node and a store that hold the same map are alike: searches and fetches of pool ticks answer the
same on both sides, and leave both as they were but for what the node has been asked. -/
theorem alike_of_holds (hholds : node.pool.Holds block spacing entries) (hpos : 0 < spacing)
    (hwords : Bitmap.build spacing (entries.map (·.1)) = .ok words)
    (hmode : st.withinOneWord = true)
    (hsnap : st.snapshot (.int block) =
      .ok ⟨.int block, .int spacing, words, entries, sorted⟩)
    (hdomain : ∀ t, domain.contains t = true → KeyDomain.ticks.contains t = true) :
    v.provider.Alike Store.provider domain (.int block) (.int spacing)
      fun a b => a.pool = node.pool ∧ b = st := by
  constructor
  · rintro d _ ⟨rfl⟩
    constructor
    · -- Both sides read the same word of the same bitmap.
      rintro a _ cursor ⟨ha, rfl⟩ hcursor
      apply (Outcome.Agrees.note ⟨ha, rfl⟩ (.read (.find (.int cursor)))).bind
      rintro _ _ a _ - ⟨ha, rfl⟩
      have hfault : ∀ count, a.pool.faultOf? .word count = none := by
        rw [ha]
        exact hholds.answersWord
      obtain ⟨probe, hprobe, hfind⟩ :=
        StateView.quiet_find (v := v) block hpos (hdomain cursor hcursor) hfault d
      rw [ha, hholds.word words hwords] at hfind
      apply Outcome.Agrees.of_quiet hfind (Store.quiet_find hmode hsnap hprobe)
      · exact ⟨_, _, rfl, rfl⟩
      · exact ⟨rfl, rfl⟩
    · rintro a _ t ⟨ha, rfl⟩ ht
      apply (Outcome.Agrees.note ⟨ha, rfl⟩ (.read (.fetch (.int t)))).bind
      rintro _ _ a _ - ⟨ha, rfl⟩
      have hfault : ∀ count, a.pool.faultOf? .liquidity count = none := by
        rw [ha]
        exact hholds.answersLiquidity
      have hliquidity : a.pool.liquidityAt block t =
          .list [.int (entries.liquidityAt t).gross, .int (entries.liquidityAt t).net] := by
        rw [ha]
        exact hholds.liquidity t
      have htick := hdomain t (KeyDomain.contains_of_strictlyInside ht)
      have hfetch := StateView.quiet_fetch (v := v) htick hfault hliquidity
      apply Outcome.Agrees.of_quiet hfetch (Store.quiet_fetch hsnap t)
      · exact ⟨_, _, rfl, rfl⟩
      · exact ⟨ha, rfl⟩
  · rintro a _ ⟨ha, rfl⟩
    apply (Outcome.Agrees.note ⟨ha, rfl⟩ (.read .version)).bind
    rintro _ _ a _ - ⟨ha, rfl⟩
    exact Outcome.Agrees.of_quiet (StateView.quiet_version block a) (Store.quiet_version hsnap) rfl
      ⟨ha, rfl⟩

/-- A view of a node that holds a map of ticks at a block, and a store that has committed the map under
the number of that block, cannot be told apart by scans and loads of that block and spacing. A scan
returns, or refuses its request for the same reason, exactly when that reason can be told and its slots
can be laid out; it fails in the same way otherwise. -/
theorem chain_and_store_agree (v : StateView) (node : Node) (st : Store) (domain : KeyDomain)
    (hnodup : (entries.map (·.1)).Nodup)
    (hholds : node.pool.Holds block spacing entries)
    (hcommitted : st.HasCommitted (.ofMap entries (.int block) spacing .null))
    (hmode : st.withinOneWord = true) (hlow : KeyDomain.ticks.minKey ≤ domain.minKey)
    (hhigh : domain.maxKey ≤ KeyDomain.ticks.maxKey) :
    (∀ (start maxSteps : Value) (d : Except Value Direction),
      let form : RequestForm := ⟨.int block, start, d, maxSteps, .int spacing⟩
      let told := ((Scanner.scan ⟨v.provider, domain⟩ form).run node).result
      told = ((Scanner.scan ⟨Store.provider, domain⟩ form).run st).result ∧
        (((∃ result, told = .ok result) ∨
            ∃ fault, form.read domain = .error fault ∧ told = .error (.request fault)) ↔
          (∀ fault, form.read domain = .error fault → ∀ v ∈ fault.shows, v.isShort = true) ∧
            ∀ request, form.read domain = .ok request → request.maxSteps ≤ Scanner.slotLimit)) ∧
    (∀ (start count batch : Value) (d : Direction) (expected : Option Value),
      let r : LoadRequest := ⟨.int block, start, d, .int spacing, count, batch, expected⟩
      ((loadTicks ⟨v.provider, domain⟩ r).run node).result =
        ((loadTicks ⟨Store.provider, domain⟩ r).run st).result) ∧
    ∀ current band batch : Value,
      let r : BandRequest := ⟨.int block, current, .int spacing, band, batch⟩
      ((loadBand ⟨v.provider, domain⟩ r).run node).result =
        ((loadBand ⟨Store.provider, domain⟩ r).run st).result := by
  obtain ⟨hpos, words, hwords, hsnap⟩ := hcommitted.exists_words hnodup
  have hdomain : ∀ t, domain.contains t = true → KeyDomain.ticks.contains t = true := by
    intro t ht
    obtain ⟨hmin, hmax⟩ := KeyDomain.contains_iff.mp ht
    exact KeyDomain.contains_iff.mpr ⟨hlow.trans hmin, hmax.trans hhigh⟩
  have halike := alike_of_holds (v := v) hholds hpos hwords hmode hsnap hdomain
  refine ⟨?_, ?_, ?_⟩
  · intro start maxSteps d form told
    have hagrees := (Scanner.scan_agrees_of_alike form halike ⟨rfl, rfl⟩).result.eq
    refine ⟨hagrees, ?_⟩
    change told = _ at hagrees
    rw [hagrees]
    exact Store.scan_ok_or_refused_iff hcommitted.reachable hsnap rfl hpos
  · intro start count batch d expected r
    exact (loadTicks_agrees_of_alike halike ⟨rfl, rfl⟩).result.eq
  · intro current band batch r
    exact (loadBand_agrees_of_alike halike ⟨rfl, rfl⟩).result.eq

/-- Two ticks behind an endpoint, walked down through an edge of a bitmap word. -/
theorem chain_and_store_agree_behind_endpoint :
    let entries : Keyed Liquidity := [(10, ⟨5, 5⟩), (-20, ⟨3, -3⟩)]
    let pool : Pool := ⟨10, entries.map NodeTick.ofEntry, [], none, .null, .null, [], []⟩
    let v : StateView := ⟨.endpoint "http://node", .zero, ⟨List.replicate 32 7, rfl⟩⟩
    let c := Commit.ofMap entries (.int (3 : Nat)) 10 .null
    let st := ((Store.commit c).run (.empty ⟨-100, 100⟩ true)).state
    let form : RequestForm := ⟨.int (3 : Nat), .int 0, .ok .inclusive, .int 2, .int 10⟩
    (entries.map (·.1)).Nodup ∧ pool.Holds (3 : Nat) 10 entries ∧ st.HasCommitted c ∧
      st.withinOneWord = true ∧
      ((Scanner.scan ⟨v.provider, ⟨-100, 100⟩⟩ form).run (.start pool)).result =
        .ok ⟨[⟨false, 0, 0, 0⟩, ⟨true, -20, 3, -3⟩], 2, .int (3 : Nat), .inclusive⟩ := by
  intro entries pool v c st form
  have hnodup : (entries.map (·.1)).Nodup := by decide
  have hholds : pool.Holds (3 : Nat) 10 entries := Pool.holds_of_ticks hnodup rfl rfl rfl rfl
  have hcommitted : st.HasCommitted c :=
    ⟨.empty ⟨-100, 100⟩ true, .empty _ _, [], ⟨.int 3, rfl⟩, rfl⟩
  have hmode : st.withinOneWord = true := rfl
  have hbounds : KeyDomain.ticks.minKey ≤ -100 ∧ 100 ≤ KeyDomain.ticks.maxKey := by decide
  have hagree := (chain_and_store_agree v (.start pool) st ⟨-100, 100⟩ hnodup hholds hcommitted hmode
    hbounds.1 hbounds.2).1 (.int 0) (.int 2) (.ok .inclusive)
  refine ⟨hnodup, hholds, hcommitted, hmode, hagree.1.trans ?_⟩
  dsimp only [st, c, entries]
  rfl

/-- A request for more slots than an index can count passes its check, and its scan fails on both sides. -/
theorem chain_and_store_fail_without_slots :
    let entries : Keyed Liquidity := [(10, ⟨5, 5⟩)]
    let pool : Pool := ⟨10, entries.map NodeTick.ofEntry, [], none, .null, .null, [], []⟩
    let v : StateView := ⟨.endpoint "http://node", .zero, ⟨List.replicate 32 7, rfl⟩⟩
    let c := Commit.ofMap entries (.int (3 : Nat)) 10 .null
    let st := ((Store.commit c).run (.empty ⟨-100, 100⟩ true)).state
    let request : ScanRequest := ⟨.int (3 : Nat), 0, .exclusive, 9223372036854775808, 10⟩
    pool.Holds (3 : Nat) 10 entries ∧ st.HasCommitted c ∧
      request.form.check ⟨-100, 100⟩ = .ok request ∧
      ((Scanner.scan ⟨v.provider, ⟨-100, 100⟩⟩ request.form).run (.start pool)).result =
        .error .notIndex ∧
      ((Scanner.scan ⟨Store.provider, ⟨-100, 100⟩⟩ request.form).run st).result = .error .notIndex := by
  intro entries pool v c st request
  have hholds : pool.Holds (3 : Nat) 10 entries := Pool.holds_of_ticks (by decide) rfl rfl rfl rfl
  have hcommitted : st.HasCommitted c :=
    ⟨.empty ⟨-100, 100⟩ true, .empty _ _, [], ⟨.int 3, rfl⟩, rfl⟩
  have hcheck : request.form.check ⟨-100, 100⟩ = .ok request := rfl
  have hlarge : Scanner.slotLimit < request.maxSteps := by decide
  exact ⟨hholds, hcommitted, hcheck, congrArg Outcome.result (Scanner.scan_of_lt hcheck hlarge _),
    congrArg Outcome.result (Scanner.scan_of_lt hcheck hlarge st)⟩

end TickWalk
