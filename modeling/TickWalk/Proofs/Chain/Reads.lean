import TickWalk.Proofs.Chain.Faults

/-!
# What runs may read from the chain

A view is asked by scans and loads for words that a search from a cursor in the domain looks at, and for
the liquidity of ticks strictly inside it. So what holds of these calls, and of the failures that
they may have, holds of whole runs. The node need not stay the same meanwhile: it may change before
every read, and answer the same question in another way each time.
-/

namespace TickWalk

variable {σ α β : Type}

def Action.stir (change : σ → σ) : Action σ Unit := fun s => ⟨.ok (), change s, []⟩

/-- The provider over a state that changes before everything that is asked. -/
def Provider.stirred (p : Provider σ) (change : Read → σ → σ) : Provider σ where
  answerFind snapshot cursor direction spacing := do
    Action.stir (change (.find cursor))
    p.answerFind snapshot cursor direction spacing
  answerFetch snapshot tick := do
    Action.stir (change (.fetch tick))
    p.answerFetch snapshot tick
  answerVersion snapshot := do
    Action.stir (change .version)
    p.answerVersion snapshot

lemma Provider.stirred_id (p : Provider σ) : p.stirred (fun _ => id) = p := rfl

lemma Provider.result_find_stirred (p : Provider σ) (change : Read → σ → σ)
    (snapshot cursor spacing : Value) (d : Direction) (s : σ) :
    (((p.stirred change).find snapshot cursor d spacing).run s).result =
      ((p.answerFind snapshot cursor d spacing).run (change (.find cursor) s)).result := rfl

lemma Provider.result_version_stirred (p : Provider σ) (change : Read → σ → σ) (snapshot : Value)
    (s : σ) :
    (((p.stirred change).version snapshot).run s).result =
      ((p.answerVersion snapshot).run (change .version s)).result := rfl

lemma Provider.mayAnswer_find_of_stirred {p : Provider σ} {change : Read → σ → σ}
    {snapshot cursor spacing candidate : Value} {d : Direction}
    (h : ((p.stirred change).find snapshot cursor d spacing).MayAnswer candidate) :
    (p.find snapshot cursor d spacing).MayAnswer candidate := by
  obtain ⟨s, hs⟩ := h
  exact ⟨change (.find cursor) s, hs⟩

lemma Provider.mayAnswer_fetch_of_stirred {p : Provider σ} {change : Read → σ → σ}
    {snapshot tick stored : Value} (h : ((p.stirred change).fetch snapshot tick).MayAnswer stored) :
    (p.fetch snapshot tick).MayAnswer stored := by
  obtain ⟨s, hs⟩ := h
  exact ⟨change (.fetch tick) s, hs⟩

/-- What a search in a domain reads: the word of a search from a cursor that the domain contains, and the
liquidity of a tick strictly inside it. -/
inductive Call.Within (domain : KeyDomain) : Call → Prop
  | word {cursor spacing : Int} {d : Direction} {probe : Bitmap.Probe}
      (hcursor : domain.contains cursor = true) (hpos : 0 < spacing)
      (hprobe : Bitmap.Probe.at? d spacing cursor = .ok probe) : Within domain (.word probe.word)
  | liquidity {t : Int} (ht : domain.strictlyInside t = true) : Within domain (.liquidity t)

/-- The liquidity that an answer tells, as integers. -/
def Value.amounts (v : Value) : Except Failure Value := do
  let (gross, net) ← v.pair
  let gross ← gross.toInteger
  let net ← net.toInteger
  .ok (.list [.int gross, .int net])

/-- A run that leaves a good pool, and in which nothing but such chain reads and such a failure occur. -/
structure Outcome.Confined (G : Pool → Prop) (P : ChainRead → Prop) (F : Failure → Prop)
    (o : Outcome Node α) : Prop where
  pool : G o.state.pool
  reads : ∀ read ∈ chainReads o.events, P read
  failure : ∀ e, o.result = .error e → F e

namespace Action

variable {G : Pool → Prop} {P : ChainRead → Prop} {F F' : Failure → Prop} {x : Action Node α}
  {f : α → Action Node β}

def Confined (G : Pool → Prop) (P : ChainRead → Prop) (F : Failure → Prop) (x : Action Node α) :
    Prop := ∀ node, G node.pool → (x.run node).Confined G P F

lemma Confined.imp (hx : x.Confined G P F) (h : ∀ e, F e → F' e) : x.Confined G P F' := by
  intro node hgood
  obtain ⟨hpool, hreads, hfailure⟩ := hx node hgood
  exact ⟨hpool, hreads, fun e he => h e (hfailure e he)⟩

lemma confined_lift {r : Except Failure α} (h : ∀ e, r = .error e → F e) :
    (lift r : Action Node α).Confined G P F := by
  intro node hgood
  refine ⟨hgood, ?_, h⟩
  intro read hread
  cases hread

lemma confined_note {event : Event} (hsilent : event.chainRead? = none) :
    (note event).Confined G P F := by
  intro node hgood
  have hreads : chainReads ((note event).run node).events = [] := List.filterMap_cons_none hsilent
  refine ⟨hgood, ?_, ?_⟩
  · intro read hread
    rw [hreads] at hread
    cases hread
  · rintro e ⟨⟩

lemma confined_stir {change : Node → Node} (h : ∀ node, G node.pool → G (change node).pool) :
    (stir change).Confined G P F := by
  intro node hgood
  refine ⟨h node hgood, ?_, ?_⟩
  · intro read hread
    cases hread
  · rintro e ⟨⟩

lemma Confined.bind (hx : x.Confined G P F)
    (hf : ∀ node a, G node.pool → (x.run node).result = .ok a → (f a).Confined G P F) :
    (x >>= f).Confined G P F := by
  intro node hgood
  obtain ⟨hpool, hreads, hfailure⟩ := hx node hgood
  have hnext := fun a => hf node a hgood
  cases hrun : x.run node with
  | mk result after before =>
    rw [hrun] at hpool hreads hfailure hnext
    cases result with
    | error e =>
      rw [run_bind_of_error hrun]
      refine ⟨hpool, hreads, ?_⟩
      rintro _ ⟨⟩
      exact hfailure e rfl
    | ok a =>
      obtain ⟨hpool', hreads', hfailure'⟩ := hnext a rfl after hpool
      rw [run_bind_of_ok hrun]
      refine ⟨hpool', ?_, hfailure'⟩
      intro read hread
      rw [chainReads_append, List.mem_append] at hread
      exact hread.elim (hreads read) (hreads' read)

lemma Confined.stirred (hx : x.Confined G P F) {read : Read} {change : Node → Node}
    (hchange : ∀ node, G node.pool → G (change node).pool) : (do
      note (.read read)
      stir change
      x).Confined G P F := by
  apply (confined_note rfl).bind
  intro _ _ _ _
  exact (confined_stir hchange).bind fun _ _ _ _ => hx

lemma confined_compositional :
    CompositionalOn F fun (α : Type) (x : Action Node α) => x.Confined G P F := by
  constructor
  case lift => exact fun r h => confined_lift h
  case log => exact fun level source text => confined_note rfl
  case bind => exact fun hx hf => hx.bind fun node a _ ha => hf a ⟨node, ha⟩

end Action

namespace StateView

variable {v : StateView} {domain : KeyDomain} {snapshot : Value} {G : Pool → Prop}
  {P : ChainRead → Prop} {F F' : Failure → Prop} {change : Read → Node → Node} {c : Call}
  {block : Nat} {node : Node}

/-- At a snapshot and on good pools, everything that searches in a domain may come to is allowed: the
chain reads, the failures, and the answers that are none. -/
structure Confines (v : StateView) (domain : KeyDomain) (snapshot : Value) (G : Pool → Prop)
    (P : ChainRead → Prop) (F : Failure → Prop) : Prop where
  unpinned : ∀ e, StateView.block snapshot = .error e → F e
  untold : ∀ (c : Call) text e, c.Within domain → Text.composed (c.arguments.map .int) text = .error e → F e
  read : ∀ c block, c.Within domain → StateView.block snapshot = .ok block →
    v.transport.admits c = .ok () → P (v.readOf block c)
  refusedCall : ∀ c e, c.Within domain → v.transport.admits c = .error e → F e
  failed : ∀ call block kind message, StateView.block snapshot = .ok block →
    F (Failure.readFailed call block (.raised kind message)).told
  undecoded : ∀ pool block t e, G pool → (pool.liquidityAt block t).amounts = .error e → F e

lemma Confines.imp (h : v.Confines domain snapshot G P F) (hF : ∀ e, F e → F' e) :
    v.Confines domain snapshot G P F' := by
  constructor
  case unpinned => exact fun e he => hF _ (h.unpinned e he)
  case untold => exact fun c text e hc he => hF _ (h.untold c text e hc he)
  case read => exact h.read
  case refusedCall => exact fun c e hc he => hF _ (h.refusedCall c e hc he)
  case failed => exact fun call block kind message hb => hF _ (h.failed call block kind message hb)
  case undecoded => exact fun pool block t e hgood he => hF _ (h.undecoded pool block t e hgood he)

lemma unpinned_of_block {e : Failure} (h : StateView.block snapshot = .error e) :
    e = (Failure.unpinned snapshot).told := by
  unfold StateView.block at h
  split at h
  · cases h
  · exact (Except.error.inj h).symm

lemma eq_int_of_block (h : StateView.block snapshot = .ok block) : snapshot = .int block := by
  unfold StateView.block at h
  split at h
  · rw [← Except.ok.inj h]
    rfl
  · cases h

lemma eq_of_version {version : Value}
    (h : ((v.provider.stirred change).version snapshot).MayAnswer version) : version = snapshot := by
  obtain ⟨_, -, h⟩ := Action.exists_mayAnswer_of_bind h
  obtain ⟨_, -, h⟩ := Action.exists_mayAnswer_of_bind h
  obtain ⟨block, hblock, h⟩ := Action.exists_mayAnswer_of_bind h
  rw [eq_int_of_block (Action.eq_ok_of_mayAnswer hblock)]
  exact (Except.ok.inj (Action.eq_ok_of_mayAnswer h)).symm

lemma confined_block (hunpinned : ∀ e, StateView.block snapshot = .error e → F e) :
    (Action.lift (StateView.block snapshot)).Confined G P F :=
  Action.confined_lift hunpinned

/-- A call cannot be made, or it is one chain read; that is answered with what the pool holds, or fails. -/
lemma call_cases (v : StateView) (label : String) (c : Call) (block : Nat) (node : Node) :
    (∃ e, v.transport.admits c = .error e ∧
      (v.call label c block).run node = ⟨.error e, node, []⟩) ∨
    v.transport.admits c = .ok () ∧
      ((v.call label c block).run node =
          ⟨.ok (c.answer block node.pool), node.asking c, [.chain (v.readOf block c)]⟩ ∨
        ∃ kind message lines, chainReads lines = [] ∧ (v.call label c block).run node =
          ⟨.error (Failure.readFailed label block (.raised kind message)).told, node.asking c,
            .chain (v.readOf block c) :: lines⟩) := by
  cases hadmits : v.transport.admits c with
  | error e =>
    refine .inl ⟨e, rfl, ?_⟩
    unfold call
    rw [hadmits]
    rfl
  | ok _ =>
    refine .inr ⟨rfl, ?_⟩
    cases hfault : node.fault? c with
    | none => exact .inl (run_call_answered hadmits label block hfault)
    | some fault =>
      obtain ⟨lines, hlines, hrun⟩ := run_call_failed hadmits label block fault
      exact .inr ⟨_, _, lines, hlines, hrun node hfault⟩

lemma answer_of_call {label : String} {answer : Value}
    (h : ((v.call label c block).run node).result = .ok answer) : answer = c.answer block node.pool := by
  rcases v.call_cases label c block node with ⟨e, -, hrun⟩ | ⟨-, hrun | ⟨_, _, lines, -, hrun⟩⟩
  · rw [hrun] at h
    cases h
  · rw [hrun] at h
    exact (Except.ok.inj h).symm
  · rw [hrun] at h
    cases h

lemma confined_call (label : String)
    (hread : v.transport.admits c = .ok () → P (v.readOf block c))
    (hrefused : ∀ e, v.transport.admits c = .error e → F e)
    (hfailed : ∀ kind message, F (Failure.readFailed label block (.raised kind message)).told) :
    (v.call label c block).Confined G P F := by
  intro node hgood
  rcases v.call_cases label c block node with
    ⟨e, hadmits, hrun⟩ | ⟨hadmits, hrun | ⟨kind, message, lines, hlines, hrun⟩⟩
  · rw [hrun]
    refine ⟨hgood, fun read hr => absurd hr List.not_mem_nil, ?_⟩
    rintro _ ⟨⟩
    exact hrefused e hadmits
  · rw [hrun]
    refine ⟨hgood, fun read hr => List.mem_singleton.mp hr ▸ hread hadmits, ?_⟩
    rintro _ ⟨⟩
  · have hreads : chainReads (.chain (v.readOf block c) :: lines) = [v.readOf block c] :=
      congrArg (v.readOf block c :: ·) hlines
    rw [hrun]
    refine ⟨hgood, fun read hr => ?_, ?_⟩
    · rw [hreads] at hr
      exact List.mem_singleton.mp hr ▸ hread hadmits
    · rintro _ ⟨⟩
      exact hfailed kind message

lemma Confines.call (h : v.Confines domain snapshot G P F) (hc : c.Within domain)
    (hblock : StateView.block snapshot = .ok block) (label : String) :
    (v.call label c block).Confined G P F := by
  apply confined_call label
  case hread => exact h.read c block hc hblock
  case hrefused => exact fun e he => h.refusedCall c e hc he
  case hfailed => exact fun kind message => h.failed label block kind message hblock

lemma confined_word (h : v.Confines domain snapshot G P F) {n : Int} (hn : Call.Within domain (.word n))
    (hblock : StateView.block snapshot = .ok block) :
    (v.word (.int block) (.int n)).Confined G P F := by
  unfold word
  rw [block_int, Action.lift_ok_bind]
  apply (Action.confined_lift fun e he => h.untold _ _ e hn he).bind
  intro node label _ _
  rw [Value.toInteger_int, Action.lift_ok_bind]
  apply (h.call hn hblock _).bind
  intro node answer _ hanswer
  rw [answer_of_call hanswer]
  exact Action.confined_compositional.pure _

lemma confined_find (h : v.Confines domain snapshot G P F) {cursor spacing : Int}
    (hcursor : domain.contains cursor = true) (hpos : 0 < spacing) (d : Direction) :
    (v.find snapshot (.int cursor) d (.int spacing)).Confined G P F := by
  have hrules := Action.confined_compositional (G := G) (P := P) (F := F)
  have hprobe := Bitmap.at?_of_pos hpos d cursor
  rw [find_eq]
  apply hrules.bind (confined_block h.unpinned)
  intro block hblock
  rw [Bitmap.Probe.ofValues_int, hprobe, Action.lift_ok_bind]
  have hword := confined_word h (.word hcursor hpos hprobe) (Action.eq_ok_of_mayAnswer hblock)
  exact hrules.bind hword fun word _ => hrules.pure _

lemma fetch_int (v : StateView) (snapshot : Value) (t : Int) :
    v.fetch snapshot (.int t) = (do
      let block ← Action.lift (StateView.block snapshot)
      let label ← Action.lift (Text.composed [.int t] s!"getTickLiquidity({(Value.int t).display})")
      let answer ← v.call label (.liquidity t) block
      Action.lift answer.amounts) := by
  have hanswer : ∀ answer : Value, (do
      let (gross, net) ← Action.lift answer.pair
      let gross ← Action.lift gross.toInteger
      let net ← Action.lift net.toInteger
      pure (.list [.int gross, .int net]) : Action Node Value) = Action.lift answer.amounts := by
    intro answer
    unfold Value.amounts
    cases answer.pair with
    | error e => rfl
    | ok amounts =>
      obtain ⟨gross, net⟩ := amounts
      rw [Action.lift_ok_bind, ok_bind]
      dsimp only
      cases gross.toInteger with
      | error e => rfl
      | ok gross =>
        cases net.toInteger with
        | error e => rfl
        | ok net => rfl
  unfold fetch
  simp only [hanswer]
  rfl

lemma confined_fetch (h : v.Confines domain snapshot G P F) {t : Int}
    (ht : domain.strictlyInside t = true) : (v.fetch snapshot (.int t)).Confined G P F := by
  rw [fetch_int]
  apply (confined_block h.unpinned).bind
  intro node block _ hblock
  apply (Action.confined_lift fun e he => h.untold _ _ e (.liquidity ht) he).bind
  intro node label _ _
  apply (h.call (.liquidity ht) hblock _).bind
  intro node answer hgood hanswer
  rw [answer_of_call hanswer]
  apply Action.confined_lift
  exact fun e he => h.undecoded node.pool block t e hgood he

lemma confined_version (hunpinned : ∀ e, StateView.block snapshot = .error e → F e) :
    (version snapshot).Confined G P F := by
  have hrules := Action.confined_compositional (G := G) (P := P) (F := F)
  exact hrules.bind (confined_block hunpinned) fun block _ => hrules.pure _

lemma reads_confined (h : v.Confines domain snapshot G P F)
    (hchange : ∀ read node, G node.pool → G (change read node).pool) :
    (v.provider.stirred change).Reads (fun _ x => x.Confined G P F) domain snapshot := by
  constructor
  case find =>
    exact fun cursor d spacing hcursor hpos => (confined_find h hcursor hpos d).stirred (hchange _)
  case candidate => exact fun _ _ _ _ h => candidate_of_find (Provider.mayAnswer_find_of_stirred h)
  case fetch => exact fun t ht => (confined_fetch h ht).stirred (hchange _)
  case amounts => exact fun _ _ h => amounts_of_fetch (Provider.mayAnswer_fetch_of_stirred h)
  case version => exact (confined_version h.unpinned).stirred (hchange _)

/-- All scans and loads of a view in a domain are confined, whatever they are asked, while the node
changes between reads. A load may refuse its count and its batch size before anything else. -/
structure RunsConfined (v : StateView) (change : Read → Node → Node) (domain : KeyDomain)
    (G : Pool → Prop) (P : ChainRead → Prop) (F : Failure → Prop) : Prop where
  scan : ∀ form, (Scanner.scan ⟨v.provider.stirred change, domain⟩ form).Confined G P F
  load : ∀ r, (loadTicks ⟨v.provider.stirred change, domain⟩ r).Confined G P fun e =>
    r.check = .error e ∨ F e
  band : ∀ r, (loadBand ⟨v.provider.stirred change, domain⟩ r).Confined G P fun e =>
    r.check = .error e ∨ F e

lemma confined_scan {form : RequestForm} (h : v.Confines domain form.snapshot G P F)
    (hown : ∀ e, form.ready domain = .error e → F e)
    (hchange : ∀ read node, G node.pool → G (change read node).pool) :
    (Scanner.scan ⟨v.provider.stirred change, domain⟩ form).Confined G P F :=
  Scanner.scan_compositionalOn Action.confined_compositional hown (reads_confined h hchange)

lemma confined_loadTicks {r : LoadRequest} (h : v.Confines domain r.snapshot G P F)
    (hown : r.FailsIn (v.provider.stirred change) domain F)
    (hchange : ∀ read node, G node.pool → G (change read node).pool) :
    (loadTicks ⟨v.provider.stirred change, domain⟩ r).Confined G P F :=
  loadTicks_compositionalOn Action.confined_compositional hown (reads_confined h hchange)

lemma confined_loadBand {r : BandRequest} (h : v.Confines domain r.snapshot G P F)
    (hown : r.FailsIn (v.provider.stirred change) domain F)
    (hchange : ∀ read node, G node.pool → G (change read node).pool) :
    (loadBand ⟨v.provider.stirred change, domain⟩ r).Confined G P F :=
  loadBand_compositionalOn Action.confined_compositional hown (reads_confined h hchange)

lemma confined_scan_unchanged {form : RequestForm} (h : v.Confines domain form.snapshot G P F)
    (hown : ∀ e, form.ready domain = .error e → F e) :
    (Scanner.scan ⟨v.provider, domain⟩ form).Confined G P F := by
  rw [← Provider.stirred_id v.provider]
  exact confined_scan h hown fun _ _ hgood => hgood

lemma confined_loadBand_unchanged {r : BandRequest} (h : v.Confines domain r.snapshot G P F)
    (hown : r.FailsIn v.provider domain F) :
    (loadBand ⟨v.provider, domain⟩ r).Confined G P F := by
  rw [← Provider.stirred_id v.provider] at hown ⊢
  exact confined_loadBand h hown fun _ _ hgood => hgood

lemma scan_of_block_error {form : RequestForm} {request : ScanRequest} {e : Failure}
    (hready : form.ready domain = .ok request) (hblock : StateView.block form.snapshot = .error e)
    (change : Read → Node → Node) (node : Node) :
    ((Scanner.scan ⟨v.provider.stirred change, domain⟩ form).run node).result = .error e := by
  obtain ⟨rfl, -, -⟩ := RequestForm.check_eq_ok_iff.mp (RequestForm.check_of_ready hready).1
  have hrefused : ∀ {α : Type} (f : Nat → Action Node α) (node : Node),
      ((Action.lift (StateView.block request.snapshot) >>= f).run node).result = .error e := by
    intro α f node
    rw [show StateView.block request.snapshot = .error e from hblock, Action.lift_error_bind]
    rfl
  rw [Scanner.scan_of_ready hready]
  unfold Scanner.follow
  -- Whether there are steps to go or none, the first thing asked of the view is refused.
  cases request.maxSteps with
  | zero =>
    rw [Scanner.walk, pure_bind]
    refine (Action.run_bind_of_result_error ?_ _).1
    rw [Provider.result_version_stirred]
    exact hrefused _ _
  | succ left =>
    refine (Action.run_bind_of_result_error ?_ _).1
    rw [Scanner.walk_succ]
    refine (Action.run_bind_of_result_error ?_ _).1
    refine (Action.run_bind_of_result_error ?_ _).1
    rw [Provider.result_find_stirred]
    exact hrefused _ _

theorem runs_confined (h : ∀ snapshot, v.Confines domain snapshot G P F) (hF : Failure.OfScans F)
    (hchange : ∀ read node, G node.pool → G (change read node).pool) :
    v.RunsConfined change domain G P F := by
  constructor
  case scan => exact fun form => confined_scan (h form.snapshot) hF.ready hchange
  case load =>
    intro r
    have hor : ∀ e, F e → r.check = .error e ∨ F e := fun _ => .inr
    exact confined_loadTicks ((h r.snapshot).imp hor) ((hF.imp hor).load fun _ => .inl) hchange
  case band =>
    intro r
    have hor : ∀ e, F e → r.check = .error e ∨ F e := fun _ => .inr
    exact confined_loadBand ((h r.snapshot).imp hor) ((hF.imp hor).band fun _ => .inl) hchange

end StateView

end TickWalk
