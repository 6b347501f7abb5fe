import TickWalk.Proofs.Chain.Arguments
import TickWalk.Proofs.Chain.Typed
import TickWalk.Proofs.Command.Print
import TickWalk.Proofs.Command.View

/-!
# Failures of commands

Whatever is wrong with a value that is given, with a request or with a chain read, is reported: the run
ends with one and has printed nothing. As a result is printed only when it is complete, a run that ends
with zero has printed all of it. The one failure that is not reported is that of a command which asks
for more slots than there can be and gets as far as laying them out.
-/

namespace TickWalk

/-! ### Reading a node -/

lemma Action.Spares.confined {α : Type} {kinds : List Question} {G : Pool → Prop}
    {F : Failure → Prop} {x : Action Node α} (hx : x.Spares kinds)
    (hF : ∀ node e, (x.run node).result = .error e → F e) : x.Confined G (fun _ => True) F := by
  intro node hgood
  refine ⟨?_, fun _ _ => trivial, hF node⟩
  rw [(hx node).pool]
  exact hgood

lemma StateView.confines_reported (v : StateView) (snapshot : Value) :
    v.Confines .ticks snapshot Pool.Typed (fun _ => True) fun e => e.isReported = true := by
  constructor
  case unpinned =>
    intro e he
    rw [unpinned_of_block he]
    exact Failure.isReported_told rfl
  case untold =>
    intro c text e _ he
    rw [Text.eq_tooManyDigits_of_composed he]
    rfl
  case read => exact fun _ _ _ _ _ => trivial
  case refusedCall =>
    intro c e hc he
    have hbounds : -8388608 ≤ KeyDomain.ticks.minKey ∧ KeyDomain.ticks.maxKey < 8388607 := by decide
    rw [v.transport.admits_of_fits (hc.inRange hbounds.1 hbounds.2).fits] at he
    cases he
  case failed => exact fun _ _ _ _ _ => Failure.isReported_told rfl
  case undecoded =>
    intro pool block t e htyped he
    obtain ⟨gross, net, hstored, -, -⟩ := htyped.liquidity block t
    rw [hstored] at he
    cases he

namespace Command

variable {β : Type} {env : Environment} {args : List String} {i : Invocation} {p : PoolArguments}
  {given : Option Int} {node : Node}

lemma confined_slot0 (v : StateView) (snapshot : Value) :
    (v.slot0 snapshot).Confined Pool.Typed (fun _ => True) fun e => e.isReported = true := by
  rw [StateView.slot0_eq]
  apply (Action.confined_lift _).bind
  · intro _ block _ _
    apply (StateView.confined_call "getSlot0" (fun _ => trivial) _
      fun _ _ => Failure.isReported_told rfl).bind
    · intro node answer htyped hanswer
      obtain ⟨price, tick, protocolFee, lpFee, hslot, -⟩ := htyped.slot0
      obtain rfl : answer = _ := (StateView.answer_of_call hanswer).trans hslot
      apply Action.confined_lift
      rintro e ⟨⟩
    · intro e he
      rw [v.transport.admits_of_fits rfl] at he
      cases he
  · intro e he
    rw [StateView.unpinned_of_block he]
    exact Failure.isReported_told rfl

lemma confined_opening (env : Environment) (p : PoolArguments) (given : Option Int) :
    (opening env p given).Confined Pool.Typed (fun _ => True) fun e => e.isReported = true := by
  have hrules := Action.confined_compositional (G := Pool.Typed) (P := fun _ => True)
    (F := fun e => e.isReported = true)
  unfold opening
  apply hrules.bind (Action.confined_lift (reported_view env p))
  intro view _
  have hpin : (view.pinBlock p.blockReference).Confined Pool.Typed (fun _ => True) fun e =>
      e.isReported = true := by
    have hspares : (view.pinBlock p.blockReference).Spares [] :=
      StateView.spares_pinBlock List.not_mem_nil List.not_mem_nil _ _
    apply hspares.confined
    intro node e he
    obtain ⟨cause, rfl⟩ := StateView.failure_of_pinBlock he
    exact Failure.isReported_told rfl
  apply hrules.bind hpin
  intro block _
  have htick : (tickAt view block given).Confined Pool.Typed (fun _ => True) fun e =>
      e.isReported = true := by
    cases given with
    | some t => exact hrules.pure t
    | none =>
      apply hrules.bind (confined_slot0 view _)
      intro slot _
      have hline : ∀ text e, Text.composed [.int slot.tick, .int block] text = .error e →
          e.isReported = true := by
        intro text e he
        rw [Text.eq_tooManyDigits_of_composed he]
        rfl
      apply hrules.bind (Action.confined_lift (hline _))
      intro line _
      exact hrules.bind (hrules.log _ _ _) fun _ _ => hrules.pure _
  exact hrules.bind htick fun tick _ => hrules.pure _

lemma confined_carryOut {F : Failure → Prop} {load : Opening → Action Node β}
    {printing : Opening → β → Action (List String) Unit} (hF : ∀ e, e.isReported = true → F e)
    (hload : ∀ node after before o, (opening env p given).run node = ⟨.ok o, after, before⟩ →
      (load o).Confined Pool.Typed (fun _ => True) F) :
    (carryOut env p given load printing).Confined Pool.Typed (fun _ => True) F := by
  apply ((confined_opening env p given).imp hF).bind
  intro node o _ hopen
  obtain ⟨after, before, hopen⟩ := Action.exists_run hopen
  apply (hload node after before o hopen).bind
  intro _ loaded _ _
  apply Action.confined_lift
  rintro e ⟨⟩

/-! ### Laying out slots -/

/-- The most slots that a scan of the command asks for. -/
def Invocation.slots : Invocation → Int
  | scan a => a.steps
  | band a => min a.band a.batch

def Invocation.tick : Invocation → Option Int
  | scan a => a.start
  | band a => a.current

/-- The command gets as far as laying out more slots than there can be. -/
structure Invocation.Overflows (env : Environment) (i : Invocation) : Prop where
  slots : Scanner.slotLimit < i.slots
  view : ∃ v, i.pool.view env = .ok v
  spacing : 0 < i.pool.spacing
  tick : ∀ t, i.tick = some t → KeyDomain.ticks.contains t = true
  block : i.pool.NamesBlock

/-- The first request of the command, after it has settled all that it names. -/
def Invocation.request (i : Invocation) (o : Opening) (d : Direction) : RequestForm :=
  ⟨.int o.block, .int o.tick, .ok d, .int i.slots, .int i.pool.spacing⟩

/-- A request that is not ready is refused, which is reported, or asks for too many slots. -/
lemma reported_or_overflows {o : Opening} {after : Node} {before : List Event} {d : Direction}
    {e : Failure} (hopen : (opening env i.pool i.tick).run node = ⟨.ok o, after, before⟩)
    (h : (i.request o d).ready .ticks = .error e) : e.isReported = true ∨ i.Overflows env := by
  rcases (i.request o d).ready_cases .ticks with
    ⟨fault, -, hready⟩ | ⟨request, hcheck, ⟨hlarge, -⟩ | ⟨-, hready⟩⟩
  · rw [Except.error.inj (h.symm.trans hready)]
    exact .inl (Failure.isReported_told rfl)
  · obtain ⟨hform, hpos, hstart⟩ := RequestForm.check_eq_ok_iff.mp hcheck
    simp only [Invocation.request, ScanRequest.form, RequestForm.mk.injEq, Value.int.injEq] at hform
    obtain ⟨-, htick, -, hslots, hspacing⟩ := hform
    obtain ⟨hopened, hnames, -, -⟩ := opened_of_opening hopen
    refine .inr ⟨hslots ▸ Int.ofNat_lt.mpr hlarge, ⟨_, hopened.view⟩, hspacing ▸ hpos, ?_, hnames⟩
    intro t ht
    rcases hopened.tick with hgiven | ⟨hnone, -⟩
    · obtain rfl := Option.some.inj (ht.symm.trans hgiven)
      exact htick ▸ hstart
    · cases ht.symm.trans hnone
  · cases h.symm.trans hready

lemma reported_band (r : BandRequest) {band batch : Int} (hband : r.band = .int band)
    (hbatch : r.batch = .int batch) : Reported r.check := by
  unfold BandRequest.check LoadRequest.check
  dsimp only [BandRequest.side]
  rw [hband, hbatch, Value.less_int, ok_bind]
  split
  · exact failsOnly_refuse rfl rfl
  · rw [Value.atMost_int, ok_bind]
    split
    · exact failsOnly_refuse rfl rfl
    · exact failsOnly_ok _

/-- Where the first batch of a load has room for its slots, every batch has. -/
lemma failsIn_of_room {σ : Type} {p : Provider σ} {handle start given : Value} {d : Direction}
    {count batch : Int} {expected : Option Value} {F : Failure → Prop}
    (hF : ∀ e, e.isReported = true → F e) (hroom : min count batch ≤ Scanner.slotLimit)
    (hcheck : ∀ e, LoadRequest.check ⟨handle, start, d, given, .int count, .int batch, expected⟩ =
      .error e → F e) :
    LoadRequest.FailsIn ⟨handle, start, d, given, .int count, .int batch, expected⟩ p .ticks F := by
  constructor
  case refused => exact hcheck
  case changed => exact fun _ _ _ _ => hF _ (Failure.isReported_told rfl)
  case batch =>
    rintro cursor steps ⟨-, got, -, hsteps⟩ e he
    rw [LoadRequest.steps_int] at hsteps
    obtain rfl := Except.ok.inj hsteps
    rcases RequestForm.ready_cases _ .ticks with
      ⟨fault, -, hready⟩ | ⟨request, hcheck, ⟨hlarge, -⟩ | ⟨-, hready⟩⟩
    · rw [Except.error.inj (he.symm.trans hready)]
      exact hF _ (Failure.isReported_told rfl)
    · obtain ⟨hform, -, -⟩ := RequestForm.check_eq_ok_iff.mp hcheck
      have hslots := Value.int.inj (congrArg RequestForm.maxSteps hform)
      omega
    · cases he.symm.trans hready

lemma confined_band {a : BandArguments} {o : Opening} {after : Node}
    {before : List Event}
    (hopen : (opening env a.pool a.current).run node = ⟨.ok o, after, before⟩) :
    (loadBand ⟨o.view.provider, .ticks⟩ (a.request o.block o.tick)).Confined Pool.Typed
      (fun _ => True) fun e => e.isReported = true ∨ (Invocation.band a).Overflows env := by
  have hconfines := (o.view.confines_reported (.int o.block)).imp
    fun e he => (.inl he : e.isReported = true ∨ (Invocation.band a).Overflows env)
  have hcheck := reported_band (a.request o.block o.tick) rfl rfl
  by_cases hroom : min a.band a.batch ≤ Scanner.slotLimit
  · apply StateView.confined_loadBand_unchanged (r := a.request o.block o.tick) hconfines
    constructor
    case below => exact failsIn_of_room (fun _ => .inl) hroom fun e he => .inl (hcheck e he)
    case above => exact fun _ _ => failsIn_of_room (fun _ => .inl) hroom fun e he => .inl (hcheck e he)
    case untold =>
      intro version _ text e he
      rw [Text.eq_tooManyDigits_of_composed he]
      exact .inl rfl
  · -- The first batch asks for all the slots that there may be at once.
    have hlarge : (Scanner.slotLimit : Int) < min a.band a.batch := Int.not_le.mp hroom
    have hpos : 1 ≤ a.band ∧ 1 ≤ a.batch := by omega
    obtain ⟨e, hready⟩ :=
      ((Invocation.band a).request o .inclusive).exists_ready_error rfl hlarge .ticks
    have hload : loadBand ⟨o.view.provider, .ticks⟩ (a.request o.block o.tick) =
        Action.lift (.error e) := loadBand_of_ready_error hpos.1 hpos.2 hready
    rw [hload]
    apply Action.confined_lift
    rintro _ ⟨rfl⟩
    exact reported_or_overflows (i := .band a) hopen hready

/-- Over pools whose answers are typed a command fails in a reported way, or in laying out its slots. -/
theorem confined_run (env : Environment) (i : Invocation) :
    (run env i).Confined Pool.Typed (fun _ => True) fun e =>
      e.isReported = true ∨ i.Overflows env := by
  cases i with
  | scan a =>
    change (runScan env a).Confined _ _ _
    rw [runScan_eq]
    apply confined_carryOut fun e he => .inl he
    intro node after before o hopen
    have hconfines := (o.view.confines_reported (.int o.block)).imp
      fun e he => (.inl he : e.isReported = true ∨ (Invocation.scan a).Overflows env)
    exact StateView.confined_scan_unchanged hconfines fun e he =>
      reported_or_overflows (i := .scan a) hopen he
  | band a =>
    change (runBand env a).Confined _ _ _
    rw [runBand_eq]
    apply confined_carryOut fun e he => .inl he
    exact fun node after before o hopen => confined_band hopen

/-! ### All or nothing -/

/-- The text is the complete result of the command on the node. -/
def Invocation.Prints (env : Environment) (node : Node) (out : String) : Invocation → Prop
  | scan a => ∃ run : ScanRun env a node, run.Prints out
  | band a => ∃ run : BandRun env a node, run.Prints out

/-- The session has failed and printed nothing, or has printed its complete result. -/
inductive AllOrNothing (env : Environment) (i : Invocation) (node : Node) (s : Session) : Prop
  | nothing (hexit : s.exit = .ok 1) (hout : s.stdout = "")
  | all (hexit : s.exit = .ok 0) (hout : i.Prints env node s.stdout)

/-- Over pools whose answers are typed a command that comes to print does so completely, or has nothing
printed when it fails. -/
lemma printout_of_run {out : Printout} (htyped : node.pool.Typed)
    (h : ((run env i).run node).result = .ok out) :
    (out.stopped = none ∧ i.Prints env node out.text) ∨ out = ⟨"", some (.tooManyDigits none)⟩ := by
  cases i with
  | scan a =>
    obtain ⟨run, rfl, -⟩ := exists_scanRun h
    have hsupplies := run.view.supplies .ticks (a.request run.block run.start).snapshot
    have hrecords := (Scanner.serves_scan hsupplies node htyped).2 _ run.scanned
    rcases run.printout_cases hrecords with ⟨text, hout, hprints⟩ | hout
    · rw [hout]
      exact .inl ⟨rfl, run, hprints⟩
    · exact .inr hout
  | band a =>
    obtain ⟨run, rfl, -⟩ := exists_bandRun h
    have hsupplies := run.view.supplies .ticks (a.request run.block run.current).snapshot
    have hrecords := (serves_loadBand hsupplies node htyped).2 _ run.loaded
    rcases run.printout_cases hrecords.1 hrecords.2 with ⟨text, hout, hprints⟩ | hout
    · rw [hout]
      exact .inl ⟨rfl, run, hprints⟩
    · exact .inr hout

def blankNode : Node :=
  .start ⟨1, [], [], none, .list [.int 0, .int 0, .int 0, .int 0], .int 0, [], []⟩

lemma typed_blankNode : blankNode.pool.Typed where
  slot0 := ⟨0, 0, 0, 0, rfl, by decide, by decide, by decide, by decide⟩
  word _ _ := ⟨le_rfl, Int.ofNat_lt.mpr (show 0 < Nat.pow 2 256 by decide)⟩
  liquidity _ _ := ⟨0, 0, rfl, by decide, by decide⟩

lemma pinBlock_blankNode {v : StateView} {url : String} (hurl : v.transport = .endpoint url)
    (hblock : p.NamesBlock) :
    ∃ n : Nat, ((v.pinBlock p.blockReference).run blankNode).result = .ok (n : Int) ∧
      n < Nat.pow 2 256 := by
  rw [StateView.pinBlock_eq]
  change ∃ n : Nat, ((v.settle p.blockReference).run blankNode).result.mapError _ = .ok (n : Int) ∧ _
  unfold PoolArguments.NamesBlock at hblock
  unfold PoolArguments.blockReference
  cases hp : p.block with
  | none =>
    refine ⟨0, ?_, Nat.two_pow_pos 256⟩
    unfold StateView.settle
    rw [hurl]
    rfl
  | some n =>
    obtain ⟨hnonneg, hsmall⟩ := hblock n hp
    obtain ⟨m, rfl⟩ := Int.eq_ofNat_of_zero_le hnonneg
    have href : BlockReference.ofValue (.int m) = .ok (.number m (quantity m)) :=
      if_pos (Int.ofNat_lt.mp hsmall)
    refine ⟨m, ?_, Int.ofNat_lt.mp hsmall⟩
    dsimp only
    unfold StateView.settle Transport.block
    rw [hurl]
    dsimp only
    rw [href]
    rfl

lemma tickAt_blankNode (v : StateView) {after : Node} (hpool : after.pool = blankNode.pool)
    {block : Nat} (hblock : block < Nat.pow 2 256) (given : Option Int) :
    ∃ tick, ((tickAt v block given).run after).result = .ok tick ∧ (given = some tick ∨ tick = 0) := by
  cases given with
  | some t => exact ⟨t, rfl, .inl rfl⟩
  | none =>
    refine ⟨0, ?_, .inr rfl⟩
    have hfault : after.fault? .slot0 = none := by
      unfold Node.fault?
      rw [hpool]
      rfl
    have hcall := StateView.run_call_answered (v := v) (v.transport.admits_of_fits rfl) "getSlot0"
      block hfault
    rw [hpool] at hcall
    have hdigits : Nat.pow 2 256 ≤ Nat.pow 10 78 := by decide
    have hshort : ∀ w ∈ [Value.int 0, .int block], w.isShort = true := by
      rw [List.forall_mem_cons, List.forall_mem_singleton, Value.isShort_int_iff, Value.isShort_int_iff]
      exact ⟨by decide, Text.short_of_lt (by decide) (by decide) (Nat.lt_of_lt_of_le hblock hdigits)⟩
    have hslot : ((v.slot0 (.int block)).run after).result = .ok ⟨0, 0, 0, 0⟩ := by
      unfold StateView.slot0
      rw [StateView.block_int, Action.lift_ok_bind, Action.run_bind_of_ok hcall]
      rfl
    obtain ⟨last, told, hslot⟩ := Action.exists_run hslot
    unfold tickAt
    dsimp only
    rw [Action.run_bind_of_ok hslot, Text.composed_of_short hshort, Action.lift_ok_bind]
    rfl

lemma opening_blankNode {v : StateView} (hview : p.view env = .ok v) (hblock : p.NamesBlock)
    (given : Option Int) : ∃ o, ((opening env p given).run blankNode).result = .ok o ∧
      (given = some o.tick ∨ o.tick = 0) := by
  obtain ⟨url, hurl⟩ := exists_endpoint_of_view hview
  obtain ⟨n, hpin, hsmall⟩ := pinBlock_blankNode hurl hblock
  have hpool : ((v.pinBlock p.blockReference).run blankNode).state.pool = blankNode.pool :=
    (StateView.spares_pinBlock List.not_mem_nil List.not_mem_nil v p.blockReference blankNode).pool
  obtain ⟨after, before, hrun⟩ := Action.exists_run hpin
  rw [hrun] at hpool
  obtain ⟨tick, htick, hgiven⟩ := tickAt_blankNode v hpool hsmall given
  obtain ⟨last, told, htick⟩ := Action.exists_run htick
  refine ⟨⟨v, n, tick⟩, ?_, hgiven⟩
  unfold opening
  rw [hview, Action.lift_ok_bind, Action.run_bind_of_ok hrun, Action.run_bind_of_ok htick]
  rfl

/-- A command that overflows does so on the blank node. -/
lemma carryOut_blankNode {load : Opening → Action Node β}
    {printing : Opening → β → Action (List String) Unit} {e : Failure} (h : i.Overflows env)
    (hload : ∀ o, KeyDomain.ticks.contains o.tick = true → load o = Action.lift (.error e)) :
    ((carryOut env i.pool i.tick load printing).run blankNode).result = .error e := by
  obtain ⟨-, ⟨v, hview⟩, -, htick, hblock⟩ := h
  obtain ⟨o, hopen, hgiven⟩ := opening_blankNode hview hblock i.tick
  have hinside : KeyDomain.ticks.contains o.tick = true := by
    rcases hgiven with hgiven | hzero
    · exact htick _ hgiven
    · rw [hzero]
      rfl
  obtain ⟨after, before, hrun⟩ := Action.exists_run hopen
  unfold carryOut
  rw [Action.run_bind_of_ok hrun, hload o hinside, Action.lift_error_bind]
  rfl

lemma ready_of_overflows {o : Opening} (h : i.Overflows env)
    (hinside : KeyDomain.ticks.contains o.tick = true) (d : Direction) :
    (i.request o d).ready .ticks = .error (Scanner.noRoom i.slots.toNat) := by
  obtain ⟨steps, hsteps⟩ := Int.eq_ofNat_of_zero_le ((Int.natCast_nonneg _).trans h.slots.le)
  have hslots := h.slots
  unfold Invocation.request
  rw [hsteps] at hslots ⊢
  have hcheck : RequestForm.check ⟨.int o.block, .int o.tick, .ok d, .int steps, .int i.pool.spacing⟩
      .ticks = .ok ⟨.int o.block, o.tick, d, steps, i.pool.spacing⟩ :=
    RequestForm.check_eq_ok_iff.mpr ⟨rfl, h.spacing, hinside⟩
  exact RequestForm.ready_of_lt hcheck (Int.ofNat_lt.mp hslots)

lemma run_blankNode (h : i.Overflows env) :
    ((run env i).run blankNode).result = .error (Scanner.noRoom i.slots.toNat) := by
  cases i with
  | scan a =>
    change ((runScan env a).run blankNode).result = _
    rw [runScan_eq]
    apply carryOut_blankNode (i := .scan a) h
    exact fun o ho => Scanner.scan_of_ready_error (ready_of_overflows (i := .scan a) h ho a.direction)
  | band a =>
    change ((runBand env a).run blankNode).result = _
    rw [runBand_eq]
    have hlarge : (Scanner.slotLimit : Int) < min a.band a.batch := h.slots
    have hpos : 1 ≤ a.band ∧ 1 ≤ a.batch := by omega
    apply carryOut_blankNode (i := .band a) h
    intro o ho
    exact loadBand_of_ready_error hpos.1 hpos.2 (ready_of_overflows (i := .band a) h ho .inclusive)

lemma isReported_noRoom (maxSteps : Nat) : (Scanner.noRoom maxSteps).isReported = false := by
  unfold Scanner.noRoom
  split_ifs
  · rfl
  · rfl

/-- The output of a command is all or nothing, over every node whose answers are typed and however its
reads fail, exactly when the command does not get as far as laying out more slots than there can be. -/
theorem output_all_or_nothing_iff (env : Environment) (hread : read args = .ok (some i)) :
    (∀ node, node.pool.Typed → AllOrNothing env i node (session env args node)) ↔
      ¬ i.Overflows env := by
  constructor
  · intro hall hoverflows
    obtain ⟨hexit, -⟩ := session_of_failure hread (.inl ⟨run_blankNode hoverflows, rfl⟩)
    rw [isReported_noRoom, if_neg Bool.false_ne_true] at hexit
    cases hall blankNode typed_blankNode with
    | nothing hone => cases hexit.symm.trans hone
    | all hzero => cases hexit.symm.trans hzero
  · intro hfits node htyped
    cases hresult : ((run env i).run node).result with
    | ok out =>
      rcases printout_of_run htyped hresult with ⟨hdone, hprints⟩ | rfl
      · obtain ⟨text, stopped⟩ := out
        obtain rfl : stopped = none := hdone
        obtain ⟨hexit, hout, -⟩ := session_of_ok hread hresult
        refine .all hexit ?_
        rw [hout]
        exact hprints
      · obtain ⟨hexit, hout⟩ := session_of_failure hread (.inr hresult)
        exact .nothing hexit hout
    | error e =>
      obtain ⟨hexit, hout⟩ := session_of_failure hread (.inl ⟨hresult, rfl⟩)
      have hreported := ((confined_run env i node htyped).failure e hresult).resolve_right hfits
      rw [if_pos hreported] at hexit
      exact .nothing hexit hout

/-- A scan of two ticks prints both or nothing, whatever fails. -/
theorem output_all_or_nothing_for_two_steps :
    let env : Environment := ⟨none, none, none⟩
    let id := "0xabababababababababababababababababababababababababababababababab"
    let args := ["scan", "--pool-id", id, "--tick-spacing", "10", "--steps", "2", "--json"]
    let i : Invocation := .scan ⟨⟨some id, none, none, none, noHooks, 10, none, none, none, none, true,
      false⟩, none, .exclusive, 2⟩
    read args = .ok (some i) ∧ ¬ i.Overflows env ∧
      ∀ node, node.pool.Typed → AllOrNothing env i node (session env args node) := by
  intro env id args i
  have hread : read args = .ok (some i) := eq_ok_of_toOption (by decide +kernel)
  have hfits : ¬ i.Overflows env := fun h => absurd h.slots (by decide)
  exact ⟨hread, hfits, (output_all_or_nothing_iff env hread).mpr hfits⟩

/-- With one step more than there can be slots the run ends with a failure that nobody reports. -/
theorem output_fails_beyond_slot_limit :
    let env : Environment := ⟨none, none, none⟩
    let id := "0xabababababababababababababababababababababababababababababababab"
    let args := ["scan", "--pool-id", id, "--tick-spacing", "10", "--start-tick", "0", "--steps",
      "9223372036854775808"]
    let i : Invocation := .scan ⟨⟨some id, none, none, none, noHooks, 10, none, none, none, none, false,
      false⟩, some 0, .exclusive, 9223372036854775808⟩
    read args = .ok (some i) ∧ blankNode.pool.Typed ∧
      (∃ e, (session env args blankNode).exit = .error e) ∧
      ¬ AllOrNothing env i blankNode (session env args blankNode) := by
  intro env id args i
  have hread : read args = .ok (some i) := eq_ok_of_toOption (by decide +kernel)
  have hnone : (session env args blankNode).exit.toOption = none := by decide +kernel
  obtain ⟨e, he⟩ : ∃ e, (session env args blankNode).exit = .error e := by
    cases hexit : (session env args blankNode).exit with
    | error e => exact ⟨e, rfl⟩
    | ok code =>
      rw [hexit] at hnone
      cases hnone
  refine ⟨hread, typed_blankNode, ⟨e, he⟩, ?_⟩
  rintro (⟨hexit, -⟩ | ⟨hexit, -⟩) <;> cases hexit.symm.trans he

end Command

end TickWalk
