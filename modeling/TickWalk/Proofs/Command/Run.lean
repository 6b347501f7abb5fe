import TickWalk.Command.Session
import TickWalk.Proofs.Chain.Pinned
import TickWalk.Proofs.Chain.Questions

/-!
# How a command runs

Both commands settle their view, their block and their tick, load what they are asked for, and print it.
What they load is what the library loads there on the same node, since settling a block and a tick leaves
no trace that scans and loads could notice. All chain reads but the one that settles the block are at that
block; the first of them is for the active tick, unless a tick is given.
-/

namespace TickWalk

namespace Action

variable {σ α β : Type}

lemma exists_of_run_bind_ok {x : Action σ α} {f : α → Action σ β} {s u : σ} {b : β}
    {events : List Event} (h : (x >>= f).run s = ⟨.ok b, u, events⟩) :
    ∃ a t before after, x.run s = ⟨.ok a, t, before⟩ ∧ (f a).run t = ⟨.ok b, u, after⟩ ∧
      events = before ++ after := by
  cases hx : x.run s with
  | mk result t before =>
    cases result with
    | error e =>
      rw [run_bind_of_error hx] at h
      cases congrArg Outcome.result h
    | ok a =>
      rw [run_bind_of_ok hx] at h
      cases hf : (f a).run t with
      | mk result' u' after =>
        rw [hf] at h
        obtain ⟨hresult, rfl, rfl⟩ := Outcome.mk.inj h
        exact ⟨a, t, before, after, rfl, hresult ▸ hf, rfl⟩

end Action

/-- The active tick that a pool tells, which is the second of four fields. -/
def Pool.TellsTick (pool : Pool) (t : Int) : Prop :=
  ∃ price tick protocolFee lpFee : Value,
    pool.slot0.unpack 4 = .ok [price, tick, protocolFee, lpFee] ∧ tick.toInteger = .ok t

lemma StateView.Slot0.tick_of_ofAnswer {answer : Value} {slot : Slot0}
    (h : ofAnswer answer = .ok slot) : ∃ price tick protocolFee lpFee : Value,
      answer.unpack 4 = .ok [price, tick, protocolFee, lpFee] ∧ tick.toInteger = .ok slot.tick := by
  obtain ⟨fields, hfields, h⟩ := exists_of_bind_ok h
  split at h
  · obtain ⟨_, -, h⟩ := exists_of_bind_ok h
    obtain ⟨t, ht, h⟩ := exists_of_bind_ok h
    obtain ⟨_, -, h⟩ := exists_of_bind_ok h
    obtain ⟨_, -, h⟩ := exists_of_bind_ok h
    obtain rfl := Except.ok.inj h
    exact ⟨_, _, _, _, hfields, ht⟩
  · cases h

/-- The active state is read by one call, at the block. -/
lemma StateView.told_of_slot0 {v : StateView} {block : Int} {node after : Node} {slot : Slot0}
    {events : List Event} (h : (v.slot0 (.int block)).run node = ⟨.ok slot, after, events⟩) :
    ∃ n : Nat, block = n ∧ node.pool.TellsTick slot.tick ∧
      TickWalk.chainReads events = [v.readOf n .slot0] := by
  rw [slot0_eq] at h
  obtain ⟨n, _, _, _, hblock, hrest, rfl⟩ := Action.exists_of_run_bind_ok h
  obtain ⟨hn, rfl, rfl⟩ := Outcome.mk.inj hblock
  obtain ⟨answer, _, told, _, hcall, hread, rfl⟩ := Action.exists_of_run_bind_ok hrest
  obtain ⟨hslot, rfl, rfl⟩ := Outcome.mk.inj hread
  obtain rfl : answer = node.pool.slot0 := answer_of_call (congrArg Outcome.result hcall)
  refine ⟨n, Value.int.inj (eq_int_of_block hn), Slot0.tick_of_ofAnswer hslot, ?_⟩
  rcases v.call_cases "getSlot0" .slot0 n node with ⟨e, -, hrun⟩ | ⟨-, hrun | ⟨_, _, _, -, hrun⟩⟩
  · cases congrArg Outcome.result (hcall.symm.trans hrun)
  · obtain ⟨-, -, rfl⟩ := Outcome.mk.inj (hcall.symm.trans hrun)
    rfl
  · cases congrArg Outcome.result (hcall.symm.trans hrun)

namespace Command

variable {env : Environment} {args : List String} {i : Invocation} {p : PoolArguments}
  {given : Option Int} {v : StateView} {node after : Node} {events : List Event} {β : Type}

/-! ### Sessions -/

lemma eq_ok_of_toOption {ε α : Type} {x : Except ε α} {a : α} (h : x.toOption = some a) :
    x = .ok a := by
  cases x with
  | error e => cases h
  | ok b => exact congrArg Except.ok (Option.some.inj h)

lemma chainReads_eq (events : List Event) : chainReads events = TickWalk.chainReads events := by
  unfold chainReads TickWalk.chainReads
  congr 1

lemma session_of_ok {out : String} (hread : read args = .ok (some i))
    (h : ((run env i).run node).result = .ok ⟨out, none⟩) :
    (session env args node).exit = .ok 0 ∧ (session env args node).stdout = out ∧
      (session env args node).reads = TickWalk.chainReads ((run env i).run node).events := by
  have hperform : (perform env i).run node = ⟨.ok ⟨.ok 0, out⟩, ((run env i).run node).state,
      ((run env i).run node).events⟩ := by
    unfold perform
    rw [Action.run_bind_of_ok (Action.run_attempt _ _), h]
    simp only [Action.run_pure, List.append_nil]
  unfold session
  rw [hread]
  dsimp only
  rw [hperform]
  exact ⟨rfl, rfl, chainReads_eq _⟩

lemma result_conclude (output : String) (e : Failure) (node : Node) :
    ((conclude output e).run node).result =
      .ok ⟨if e.isReported then .ok 1 else .error e, output⟩ := by
  unfold conclude
  cases e.isReported <;> rfl

/-- A command fails before it prints anything, or while it prints. -/
lemma session_of_failure {output : String} {e : Failure} (hread : read args = .ok (some i))
    (h : ((run env i).run node).result = .error e ∧ output = "" ∨
      ((run env i).run node).result = .ok ⟨output, some e⟩) :
    (session env args node).exit = (if e.isReported then .ok 1 else .error e) ∧
      (session env args node).stdout = output := by
  have hperform : ((perform env i).run node).result =
      .ok ⟨if e.isReported then .ok 1 else .error e, output⟩ := by
    unfold perform
    rw [Action.run_bind_of_ok (Action.run_attempt _ _)]
    rcases h with ⟨h, rfl⟩ | h
    · rw [h]
      exact result_conclude "" e _
    · rw [h]
      exact result_conclude output e _
  unfold session
  rw [hread]
  dsimp only
  rw [hperform]
  exact ⟨rfl, rfl⟩

structure Opening where
  view : StateView
  block : Int
  tick : Int

def opening (env : Environment) (p : PoolArguments) (given : Option Int) : Action Node Opening := do
  let view ← Action.lift (p.view env)
  let block ← view.pinBlock p.blockReference
  let tick ← tickAt view block given
  pure ⟨view, block, tick⟩

/-- Loads and prints, all as it has been settled. -/
def carryOut (env : Environment) (p : PoolArguments) (given : Option Int)
    (load : Opening → Action Node β) (printing : Opening → β → Action (List String) Unit) :
    Action Node Printout := do
  let o ← opening env p given
  let loaded ← load o
  pure (.of (printing o loaded))

lemma create_ticks {σ : Type} (p : Provider σ) : Scanner.create p .ticks = .ok ⟨p, .ticks⟩ := rfl

lemma runScan_eq (env : Environment) (a : ScanArguments) :
    runScan env a = carryOut env a.pool a.start
      (fun o => Scanner.scan ⟨o.view.provider, .ticks⟩ (a.request o.block o.tick))
      (fun o result => printScan a o.block o.tick result) := by
  simp only [runScan, carryOut, opening, create_ticks, Action.lift_ok_bind, bind_assoc, pure_bind]

lemma runBand_eq (env : Environment) (a : BandArguments) :
    runBand env a = carryOut env a.pool a.current
      (fun o => loadBand ⟨o.view.provider, .ticks⟩ (a.request o.block o.tick))
      (fun o band => printBand a o.block o.tick band) := by
  simp only [runBand, carryOut, opening, create_ticks, Action.lift_ok_bind, bind_assoc, pure_bind]

/-- What has been settled on a node: the view that is named, the block that is asked for or the latest
one, and the tick that is given or the active one that the pool tells. -/
structure Opened (env : Environment) (p : PoolArguments) (given : Option Int) (node : Node)
    (o : Opening) : Prop where
  view : p.view env = .ok o.view
  block : p.block = some o.block ∨ p.block = none ∧ node.pool.blockNumber.toInteger = .ok o.block
  tick : given = some o.tick ∨ given = none ∧ node.pool.TellsTick o.tick

/-- The chain read that settles the block. -/
def PoolArguments.pinRead (p : PoolArguments) (url : String) : ChainRead :=
  match p.block with
  | some n => ⟨some url, "eth_getBlockByNumber", [.text (quantity n.toNat)]⟩
  | none => ⟨some url, "eth_blockNumber", []⟩

/-- The block is settled by the first chain read, and all others are calls at this block. Without a tick
the first of these is for the active one. -/
structure ReadsOnce (p : PoolArguments) (given : Option Int) (v : StateView) (block : Int)
    (reads : List ChainRead) : Prop where
  pinned : ∃ url rest, v.transport = .endpoint url ∧ reads = p.pinRead url :: rest ∧
    ∀ read ∈ rest, v.ReadsAt (.int block) read
  active : given = none → ∃ n : Nat, block = n ∧ reads[1]? = some (v.readOf n .slot0)

/-- A block that is asked for by its number is one that endpoints know. -/
def PoolArguments.NamesBlock (p : PoolArguments) : Prop :=
  ∀ n, p.block = some n → 0 ≤ n ∧ n < (Nat.pow 2 256 : Nat)

lemma exists_endpoint_of_view (h : p.view env = .ok v) : ∃ url, v.transport = .endpoint url := by
  obtain ⟨url, -, h⟩ := exists_of_bind_ok h
  obtain ⟨pool, -, h⟩ := exists_of_bind_ok h
  obtain ⟨id, -, h⟩ := exists_of_bind_ok h
  have hmade : ∀ contract, (do
      let contract ← Address.ofContract contract
      .ok ⟨.endpoint url, contract, id⟩ : Except Failure StateView) = .ok v →
        ∃ url, v.transport = .endpoint url := by
    intro contract h
    obtain ⟨address, -, h⟩ := exists_of_bind_ok h
    obtain rfl := Except.ok.inj h
    exact ⟨url, rfl⟩
  dsimp only at h
  split at h
  · exact hmade _ h
  · obtain ⟨address, -, h⟩ := exists_of_bind_ok h
    exact hmade _ h

lemma block_of_pinBlock {url : String} {n : Int} (hurl : v.transport = .endpoint url)
    (h : (v.pinBlock p.blockReference).run node = ⟨.ok n, after, events⟩) :
    (p.block = some n ∨ p.block = none ∧ node.pool.blockNumber.toInteger = .ok n) ∧
      p.NamesBlock ∧ TickWalk.chainReads events = [p.pinRead url] := by
  have hsettle := StateView.settle_of_pinBlock h
  unfold PoolArguments.NamesBlock PoolArguments.pinRead
  unfold PoolArguments.blockReference at hsettle
  cases hp : p.block with
  | none =>
    rw [hp] at hsettle
    obtain ⟨number, t, before, rest, hnumber, htold, rfl⟩ := Action.exists_of_run_bind_ok hsettle
    rw [hurl] at hnumber
    obtain ⟨rfl, hreads⟩ := StateView.blockNumber_of_endpoint hnumber
    obtain ⟨hn, -, rfl⟩ := Outcome.mk.inj htold
    refine ⟨.inr ⟨rfl, hn⟩, ?_, ?_⟩
    · rintro m ⟨⟩
    · rw [List.append_nil]
      exact hreads
  | some m =>
    rw [hp] at hsettle
    obtain ⟨number, t, before, rest, hnumber, htold, rfl⟩ := Action.exists_of_run_bind_ok hsettle
    rw [hurl] at hnumber
    obtain ⟨r, hr, hresolve, hreads⟩ := StateView.block_of_endpoint hnumber
    obtain ⟨hn, -, rfl⟩ := Outcome.mk.inj htold
    obtain ⟨hrange, rfl⟩ := BlockReference.ofValue_int hr
    obtain rfl := Except.ok.inj hresolve
    obtain rfl : (m.toNat : Int) = n := Except.ok.inj hn
    have hself : (m.toNat : Int) = m := Int.toNat_of_nonneg hrange.1
    refine ⟨.inl (congrArg some hself.symm), ?_, ?_⟩
    · rintro _ ⟨⟩
      exact hrange
    · rw [List.append_nil]
      exact hreads

/-- The tick is the given one, or the active one that the pool tells to the first call. -/
lemma tick_of_tickAt {block tick : Int}
    (h : (tickAt v block given).run node = ⟨.ok tick, after, events⟩) :
    (given = some tick ∨ given = none ∧ node.pool.TellsTick tick) ∧
    node.Alike Question.searching after ∧
    (∀ read ∈ TickWalk.chainReads events, v.ReadsAt (.int block) read) ∧
    (given = none → ∃ n : Nat, block = n ∧
      (TickWalk.chainReads events).head? = some (v.readOf n .slot0)) := by
  cases given with
  | some t =>
    obtain ⟨ht, rfl, rfl⟩ := Outcome.mk.inj h
    refine ⟨.inl (congrArg some (Except.ok.inj ht)), .refl node, List.forall_mem_nil _, ?_⟩
    rintro ⟨⟩
  | none =>
    obtain ⟨slot, t, before, rest, hslot, hrest, rfl⟩ := Action.exists_of_run_bind_ok h
    obtain ⟨line, _, _, _, hline, hlog, rfl⟩ := Action.exists_of_run_bind_ok hrest
    obtain ⟨-, rfl, rfl⟩ := Outcome.mk.inj hline
    obtain ⟨htick, rfl, rfl⟩ := Outcome.mk.inj hlog
    obtain rfl := Except.ok.inj htick
    obtain ⟨n, rfl, htold, hread⟩ := StateView.told_of_slot0 hslot
    have hspares : node.Alike Question.searching ((v.slot0 (.int n)).run node).state :=
      StateView.spares_slot0 (by decide) v (.int n) node
    rw [hslot] at hspares
    have hreads : TickWalk.chainReads (before ++ [.line ⟨.info, source, line⟩]) =
        [v.readOf n .slot0] := by
      rw [TickWalk.chainReads_append, hread]
      rfl
    refine ⟨.inr ⟨rfl, htold⟩, hspares, ?_, fun _ => ⟨n, rfl, congrArg List.head? hreads⟩⟩
    intro read hmem
    obtain rfl := List.mem_singleton.mp (hreads ▸ hmem)
    exact ⟨n, .slot0, rfl, rfl⟩

/-- All that is settled is settled for the node as it was, and scans and loads do not notice. -/
lemma opened_of_opening {o : Opening}
    (h : (opening env p given).run node = ⟨.ok o, after, events⟩) :
    Opened env p given node o ∧ p.NamesBlock ∧ node.Alike Question.searching after ∧
      ReadsOnce p given o.view o.block (TickWalk.chainReads events) := by
  obtain ⟨view, _, _, _, hfirst, hrest, rfl⟩ := Action.exists_of_run_bind_ok h
  obtain ⟨hview, rfl, rfl⟩ := Outcome.mk.inj hfirst
  obtain ⟨block, middle, pinned, _, hblock, hlater, rfl⟩ := Action.exists_of_run_bind_ok hrest
  obtain ⟨tick, last, told, _, htick, hend, rfl⟩ := Action.exists_of_run_bind_ok hlater
  obtain ⟨ho, rfl, rfl⟩ := Outcome.mk.inj hend
  obtain rfl := Except.ok.inj ho
  obtain ⟨url, hurl⟩ := exists_endpoint_of_view hview
  obtain ⟨hnumber, hnames, hpin⟩ := block_of_pinBlock hurl hblock
  have hmiddle : node.Alike Question.searching ((view.pinBlock p.blockReference).run node).state :=
    StateView.spares_pinBlock (by decide) (by decide) view p.blockReference node
  rw [hblock] at hmiddle
  obtain ⟨htick, hlast, hreads, hactive⟩ := tick_of_tickAt htick
  rw [hmiddle.pool] at htick
  have hall : TickWalk.chainReads ([] ++ (pinned ++ (told ++ []))) =
      p.pinRead url :: TickWalk.chainReads told := by
    rw [List.nil_append, List.append_nil, TickWalk.chainReads_append, hpin]
    rfl
  rw [hall]
  refine ⟨⟨hview, hnumber, htick⟩, hnames, hmiddle.trans hlast, ⟨url, _, hurl, rfl, hreads⟩, ?_⟩
  intro hnone
  obtain ⟨n, hn, hhead⟩ := hactive hnone
  exact ⟨n, hn, List.head?_eq_getElem?.symm.trans hhead⟩

variable {load : Opening → Action Node β} {printing : Opening → β → Action (List String) Unit}
  {out : Printout}

/-- What a command prints is what it loads after it has settled everything. -/
lemma exists_of_carryOut (h : ((carryOut env p given load printing).run node).result = .ok out) :
    ∃ o after before loaded, (opening env p given).run node = ⟨.ok o, after, before⟩ ∧
      ((load o).run after).result = .ok loaded ∧ out = .of (printing o loaded) ∧
      ((carryOut env p given load printing).run node).events =
        before ++ ((load o).run after).events := by
  obtain ⟨u, events, hrun⟩ := Action.exists_run h
  rw [hrun]
  obtain ⟨o, after, before, _, hopen, hrest, rfl⟩ := Action.exists_of_run_bind_ok hrun
  obtain ⟨loaded, last, told, _, hload, hend, rfl⟩ := Action.exists_of_run_bind_ok hrest
  obtain ⟨hout, -, rfl⟩ := Outcome.mk.inj hend
  refine ⟨o, after, before, loaded, hopen, congrArg Outcome.result hload, (Except.ok.inj hout).symm, ?_⟩
  rw [hload, List.append_nil]

structure ScanRun (env : Environment) (a : ScanArguments) (node : Node) where
  view : StateView
  block : Int
  start : Int
  result : ScanResult
  opened : Opened env a.pool a.start node ⟨view, block, start⟩
  scanned : ((Scanner.scan ⟨view.provider, .ticks⟩ (a.request block start)).run node).result =
    .ok result

structure BandRun (env : Environment) (a : BandArguments) (node : Node) where
  view : StateView
  block : Int
  current : Int
  band : TickBand
  opened : Opened env a.pool a.current node ⟨view, block, current⟩
  loaded : ((loadBand ⟨view.provider, .ticks⟩ (a.request block current)).run node).result = .ok band

lemma ReadsOnce.append {block : Int} {reads more : List ChainRead}
    (h : ReadsOnce p given v block reads) (hmore : ∀ read ∈ more, v.ReadsAt (.int block) read) :
    ReadsOnce p given v block (reads ++ more) := by
  obtain ⟨⟨url, rest, hurl, rfl, hrest⟩, hactive⟩ := h
  refine ⟨⟨url, rest ++ more, hurl, rfl, List.forall_mem_append.mpr ⟨hrest, hmore⟩⟩, ?_⟩
  intro hnone
  obtain ⟨n, hn, hfirst⟩ := hactive hnone
  refine ⟨n, hn, ?_⟩
  rw [List.getElem?_append_left (List.getElem?_eq_some_iff.mp hfirst).1]
  exact hfirst

/-- A scan that answers has scanned the node as the library does. -/
theorem exists_scanRun {a : ScanArguments} (h : ((runScan env a).run node).result = .ok out) :
    ∃ run : ScanRun env a node, out = .of (printScan a run.block run.start run.result) ∧
      ReadsOnce a.pool a.start run.view run.block
        (TickWalk.chainReads ((runScan env a).run node).events) := by
  rw [runScan_eq] at h ⊢
  obtain ⟨o, after, before, result, hopen, hscan, hout, hevents⟩ := exists_of_carryOut h
  obtain ⟨hopened, -, hafter, hreads⟩ := opened_of_opening hopen
  have halike := o.view.alike_self .ticks (.int o.block) (.int a.pool.spacing)
  have hsame := (Scanner.scan_agrees_of_alike (a.request o.block o.tick) halike hafter).result.eq
  have hpins := StateView.confined_scan_unchanged
    (o.view.confines_readsAt .ticks (a.request o.block o.tick).snapshot) fun _ _ => trivial
  refine ⟨⟨o.view, o.block, o.tick, result, hopened, hsame.trans hscan⟩, hout, ?_⟩
  rw [hevents, TickWalk.chainReads_append]
  exact hreads.append (hpins after trivial).reads

theorem exists_bandRun {a : BandArguments} (h : ((runBand env a).run node).result = .ok out) :
    ∃ run : BandRun env a node, out = .of (printBand a run.block run.current run.band) ∧
      ReadsOnce a.pool a.current run.view run.block
        (TickWalk.chainReads ((runBand env a).run node).events) := by
  rw [runBand_eq] at h ⊢
  obtain ⟨o, after, before, band, hopen, hload, hout, hevents⟩ := exists_of_carryOut h
  obtain ⟨hopened, -, hafter, hreads⟩ := opened_of_opening hopen
  have halike := o.view.alike_self .ticks (.int o.block) (.int a.pool.spacing)
  have hsame := (loadBand_agrees_of_alike (r := a.request o.block o.tick) halike hafter).result.eq
  have hpins := StateView.confined_loadBand_unchanged (r := a.request o.block o.tick)
    (o.view.confines_readsAt .ticks (.int o.block)) (Failure.ofScans_true.band fun _ _ => trivial)
  refine ⟨⟨o.view, o.block, o.tick, band, hopened, hsame.trans hload⟩, hout, ?_⟩
  rw [hevents, TickWalk.chainReads_append]
  exact hreads.append (hpins after trivial).reads

end Command

end TickWalk
