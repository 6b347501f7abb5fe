import TickWalk.Proofs.Chain.Arguments

/-!
# Failures that callers know

Scans and loads end with a failure of their own family: a refused request, a snapshot or a version that
does not fit, or a read of the provider that failed, with its cause inside. Over a view, whatever
the node raises becomes such a failure, because it is raised while the call is made. Three others are
no members of the family: that of a call that cannot be made at all, that of slots that cannot be laid
out, and that of a message that cannot be written. Which domains come to the first is decided by their
bounds alone, and the requests that come to the others are those that are not modest.
-/

namespace TickWalk

variable {domain : KeyDomain} {v : StateView}

/-- The failures that scans and their providers have for their callers. -/
def Failure.isScanFailure : Failure → Bool
  | request _ => true
  | versionChanged _ _ => true
  | unknownSnapshot _ => true
  | spacingMismatch _ _ _ => true
  | unpinned _ => true
  | readFailed _ _ _ => true
  | unresolvedBlock _ _ => true
  | exhausted _ => true
  | _ => false

/-- At every block the pool tells the liquidity of every tick as two integers, as its type has it. -/
def Pool.Decodes (pool : Pool) : Prop :=
  ∀ block t, ∃ gross net : Int, pool.liquidityAt block t = .list [.int gross, .int net]

lemma Pool.decodes_of_no_ticks {pool : Pool} (hticks : pool.ticks = []) (hown : pool.ticksAt = []) :
    pool.Decodes := by
  intro block t
  refine ⟨0, 0, ?_⟩
  unfold liquidityAt ticksOf
  rw [hticks, hown]
  rfl

lemma Transport.eq_argumentOutOfRange_of_admits {t : Transport} {c : Call} {e : Failure}
    (h : t.admits c = .error e) : e = .argumentOutOfRange := by
  unfold admits at h
  split at h
  · cases h
  · split at h
    · cases h
    · exact (Except.error.inj h).symm

def Node.deaf : Node :=
  .start ⟨1, [], [], none, .null, .null, [], [(Question.word.name, ⟨"TimeoutError", "no answer", none⟩)]⟩

/-! ### Modest requests -/

/-- A request that is refused in words, or has room for its slots and a snapshot that can be shown; a scan
of no steps at a block has nothing to show. -/
structure RequestForm.Modest (form : RequestForm) (domain : KeyDomain) : Prop where
  told : ∀ fault, form.read domain = .error fault → ∀ v ∈ fault.shows, v.isShort = true
  room : ∀ request, form.read domain = .ok request → request.maxSteps ≤ Scanner.slotLimit
  shown : ∀ request, form.read domain = .ok request → form.snapshot.isShort = true ∨
    request.maxSteps = 0 ∧ ∃ block : Nat, form.snapshot = .int block

/-- All batches of the load are modest, and it can show the versions that it compares. -/
structure LoadRequest.Modest (r : LoadRequest) (domain : KeyDomain) : Prop where
  batch : ∀ cursor steps, r.Batch domain cursor steps →
    RequestForm.Modest ⟨r.snapshot, cursor, .ok r.direction, steps, r.spacing⟩ domain
  snapshot : r.snapshot.isShort = true
  expected : ∀ version, r.expected = some version → version.isShort = true

/-- The loads of both sides are modest, and the band can show its tick. -/
structure BandRequest.Modest (r : BandRequest) (domain : KeyDomain) : Prop where
  current : r.current.isShort = true
  below : (r.side .inclusive none).Modest domain
  above : (r.side .exclusive (some r.snapshot)).Modest domain

lemma RequestForm.modest_of_check {form : RequestForm} {request : ScanRequest}
    (hcheck : form.check domain = .ok request) (hroom : request.maxSteps ≤ Scanner.slotLimit)
    (hshown : form.snapshot.isShort = true ∨
      request.maxSteps = 0 ∧ ∃ block : Nat, form.snapshot = .int block) : form.Modest domain := by
  have hread := check_eq_ok_iff_read.mp hcheck
  refine ⟨?_, ?_, ?_⟩
  · intro fault hfault
    cases hread.symm.trans hfault
  · intro r hr
    obtain rfl := Except.ok.inj (hread.symm.trans hr)
    exact hroom
  · intro r hr
    obtain rfl := Except.ok.inj (hread.symm.trans hr)
    exact hshown

lemma RequestForm.modest_of_read_error {form : RequestForm} {fault : RequestFault}
    (hread : form.read domain = .error fault) (hshort : ∀ v ∈ fault.shows, v.isShort = true) :
    form.Modest domain := by
  refine ⟨?_, ?_, ?_⟩
  · intro other hother
    obtain rfl := Except.error.inj (hread.symm.trans hother)
    exact hshort
  · intro r hr
    cases hread.symm.trans hr
  · intro r hr
    cases hread.symm.trans hr

lemma RequestForm.Modest.isScanFailure_of_ready {form : RequestForm} (h : form.Modest domain)
    {e : Failure} (he : form.ready domain = .error e) : e.isScanFailure = true := by
  rcases form.ready_cases domain with
    ⟨fault, hread, hready⟩ | ⟨request, hcheck, ⟨hlarge, -⟩ | ⟨-, hready⟩⟩
  · have hshort : ∀ v ∈ (Failure.request fault).shows, v.isShort = true := h.told fault hread
    rw [Except.error.inj (he.symm.trans hready), Failure.told_of_short hshort]
    rfl
  · exact absurd (h.room request (check_eq_ok_iff_read.mp hcheck)) (Nat.not_le.mpr hlarge)
  · cases he.symm.trans hready

section

variable {σ : Type} {p : Provider σ}

lemma LoadRequest.Modest.failsIn {r : LoadRequest} (h : r.Modest domain)
    (hversion : ∀ version, (p.version r.snapshot).MayAnswer version → version.isShort = true) :
    r.FailsIn p domain fun e => r.check = .error e ∨ e.isScanFailure = true := by
  constructor
  case refused => exact fun e he => .inl he
  case batch =>
    exact fun cursor steps hbatch e he => .inr ((h.batch cursor steps hbatch).isScanFailure_of_ready he)
  case changed =>
    intro known observed hknown hobserved
    have hshort : known.isShort = true := by
      rcases hknown with hexpected | ⟨-, told, hsome, htold⟩
      · exact h.expected known hexpected.symm
      · exact Option.some.inj hsome ▸ hversion told htold
    rw [Failure.told_of_short (e := .versionChanged known observed)
      (List.forall_mem_cons.mpr ⟨hshort, List.forall_mem_singleton.mpr (hversion _ hobserved)⟩)]
    exact .inr rfl

lemma BandRequest.Modest.failsIn {r : BandRequest} (h : r.Modest domain)
    (hversion : ∀ version, (p.version r.snapshot).MayAnswer version → version = r.snapshot) :
    r.FailsIn p domain fun e => r.check = .error e ∨ e.isScanFailure = true := by
  have hshort : ∀ version, (p.version r.snapshot).MayAnswer version → version.isShort = true :=
    fun version hv => hversion version hv ▸ h.below.snapshot
  constructor
  case below => exact h.below.failsIn hshort
  case above =>
    intro version hv
    rw [hversion version hv]
    exact h.above.failsIn hshort
  case untold =>
    intro version hv text e he
    rw [Text.composed_of_short (List.forall_mem_cons.mpr
      ⟨h.current, List.forall_mem_singleton.mpr (hshort version hv)⟩)] at he
    cases he

end

namespace StateView

/-- Over nodes whose answers decode, runs in the domain fail only so. The node may change before every
read, and loads may refuse what they are asked. -/
def FailsWithin (v : StateView) (domain : KeyDomain) (F : Failure → Prop) : Prop :=
  ∀ change : Read → Node → Node,
    (∀ read node, node.pool.Decodes → (change read node).pool.Decodes) →
      v.RunsConfined change domain Pool.Decodes (fun _ => True) F

/-- The runs of modest requests in the domain, over nodes whose answers decode, fail only so. -/
structure ModestRunsConfined (v : StateView) (change : Read → Node → Node) (domain : KeyDomain)
    (F : Failure → Prop) : Prop where
  scan : ∀ form : RequestForm, form.Modest domain →
    (Scanner.scan ⟨v.provider.stirred change, domain⟩ form).Confined Pool.Decodes (fun _ => True) F
  load : ∀ r : LoadRequest, r.Modest domain →
    (loadTicks ⟨v.provider.stirred change, domain⟩ r).Confined Pool.Decodes (fun _ => True)
      fun e => r.check = .error e ∨ F e
  band : ∀ r : BandRequest, r.Modest domain →
    (loadBand ⟨v.provider.stirred change, domain⟩ r).Confined Pool.Decodes (fun _ => True)
      fun e => r.check = .error e ∨ F e

def ModestlyFailsWithin (v : StateView) (domain : KeyDomain) (F : Failure → Prop) : Prop :=
  ∀ change : Read → Node → Node,
    (∀ read node, node.pool.Decodes → (change read node).pool.Decodes) →
      v.ModestRunsConfined change domain F

lemma not_amounts_error {pool : Pool} {block t : Int} {e : Failure} (h : pool.Decodes) :
    (pool.liquidityAt block t).amounts ≠ .error e := by
  obtain ⟨gross, net, hstored⟩ := h block t
  rw [hstored]
  intro he
  cases he

/-- What runs fail with of themselves, or of the view, belongs to the family or is one of the others. -/
lemma failsWithin (v : StateView) (domain : KeyDomain) :
    v.FailsWithin domain fun e => e.isScanFailure = true ∨ e = .argumentOutOfRange ∨
      e = .tooManyDigits none ∨ ∃ maxSteps, e = Scanner.noRoom maxSteps := by
  intro change hchange
  have hscans : Failure.OfScans fun e => e.isScanFailure = true ∨ e = .argumentOutOfRange ∨
      e = .tooManyDigits none ∨ ∃ maxSteps, e = Scanner.noRoom maxSteps :=
    ⟨fun _ => .inl rfl, fun _ _ => .inl rfl, .inr (.inr (.inl rfl)),
      fun maxSteps => .inr (.inr (.inr ⟨maxSteps, rfl⟩))⟩
  apply runs_confined _ hscans hchange
  intro snapshot
  constructor
  case unpinned =>
    intro e he
    rw [unpinned_of_block he]
    exact hscans.told (.inl rfl)
  case untold =>
    intro c text e _ he
    rw [Text.eq_tooManyDigits_of_composed he]
    exact hscans.untold
  case read => exact fun _ _ _ _ _ => trivial
  case refusedCall =>
    exact fun c e _ he => .inr (.inl (Transport.eq_argumentOutOfRange_of_admits he))
  case failed => exact fun _ _ _ _ _ => hscans.told (.inl rfl)
  case undecoded => exact fun _ _ _ _ hdecodes he => absurd he (not_amounts_error hdecodes)

section

variable (hlow : -8388608 ≤ domain.minKey) (hhigh : domain.maxKey < 8388607)
  {change : Read → Node → Node}
  (hchange : ∀ read node, node.pool.Decodes → (change read node).pool.Decodes)

include hlow hhigh

lemma confines_of_bounds (v : StateView) {snapshot : Value} (hshort : snapshot.isShort = true) :
    v.Confines domain snapshot Pool.Decodes (fun _ => True) fun e => e.isScanFailure = true := by
  constructor
  case unpinned =>
    intro e he
    rw [unpinned_of_block he, Failure.told_of_short (e := .unpinned snapshot)
      (List.forall_mem_singleton.mpr hshort)]
    rfl
  case untold =>
    intro c text e hc he
    cases hc.inRange hlow hhigh with
    | word hfits =>
      cases (Text.composed_singleton (Abi.isShort_of_fits (Abi.fits_24_of_16 hfits)) text).symm.trans he
    | liquidity hfits _ =>
      cases (Text.composed_singleton (Abi.isShort_of_fits hfits) text).symm.trans he
  case read => exact fun _ _ _ _ _ => trivial
  case refusedCall =>
    intro c e hc he
    rw [v.transport.admits_of_fits (hc.inRange hlow hhigh).fits] at he
    cases he
  case failed =>
    intro call block kind message hblock
    rw [eq_int_of_block hblock] at hshort
    rw [Failure.told_readFailed, if_pos hshort]
    rfl
  case undecoded => exact fun _ _ _ _ hdecodes he => absurd he (not_amounts_error hdecodes)

include hchange

lemma confined_modest_scan (v : StateView) {form : RequestForm} (h : form.Modest domain) :
    (Scanner.scan ⟨v.provider.stirred change, domain⟩ form).Confined Pool.Decodes (fun _ => True)
      fun e => e.isScanFailure = true := by
  by_cases hshort : form.snapshot.isShort = true
  · exact confined_scan (confines_of_bounds hlow hhigh v hshort)
      (fun e => h.isScanFailure_of_ready) hchange
  cases hready : form.ready domain with
  | error e =>
    rw [Scanner.scan_of_ready_error hready]
    apply Action.confined_lift
    rintro _ ⟨rfl⟩
    exact h.isScanFailure_of_ready hready
  | ok request =>
    -- No step is made, and the version of a block is the block.
    have hcheck := (RequestForm.check_of_ready hready).1
    obtain ⟨hnone, block, hblock⟩ :=
      (h.shown request (RequestForm.check_eq_ok_iff_read.mp hcheck)).resolve_left hshort
    obtain ⟨rfl, -, -⟩ := RequestForm.check_eq_ok_iff.mp hcheck
    have hunpinned : ∀ e, StateView.block request.snapshot = .error e → e.isScanFailure = true := by
      intro e he
      cases (congrArg StateView.block hblock).symm.trans he
    have hrules := Action.confined_compositional (G := Pool.Decodes) (P := fun _ => True)
      (F := fun e => e.isScanFailure = true)
    rw [Scanner.scan_of_ready hready]
    unfold Scanner.follow
    rw [hnone, Scanner.walk, pure_bind]
    apply hrules.bind ((confined_version hunpinned).stirred (hchange _))
    intro version _
    exact hrules.bind (hrules.log _ _ _) fun _ _ => hrules.pure _

lemma modestRunsConfined (v : StateView) :
    v.ModestRunsConfined change domain fun e => e.isScanFailure = true := by
  have hconfines : ∀ {snapshot : Value} (P : Failure → Prop), snapshot.isShort = true →
      v.Confines domain snapshot Pool.Decodes (fun _ => True) fun e => P e ∨ e.isScanFailure = true :=
    fun P hshort => (confines_of_bounds hlow hhigh v hshort).imp fun _ => .inr
  constructor
  case scan => exact fun form h => confined_modest_scan hlow hhigh hchange v h
  case load =>
    intro r h
    have hown := h.failsIn (p := v.provider.stirred change) fun version hversion =>
      eq_of_version hversion ▸ h.snapshot
    exact confined_loadTicks (hconfines _ h.snapshot) hown hchange
  case band =>
    intro r h
    have hown := h.failsIn (p := v.provider.stirred change) fun version hversion =>
      eq_of_version hversion
    exact confined_loadBand (hconfines _ h.below.snapshot) hown hchange

end

end StateView

/-! ### Failures outside the family -/

def Action.Escapes {α : Type} (x : Action Node α) (node : Node) : Prop :=
  ∃ e, (x.run node).result = .error e ∧ e.isScanFailure = false

section

variable {α β : Type} {x : Action Node α} {node : Node} {e : Failure}

lemma Action.Escapes.bind (h : x.Escapes node) (f : α → Action Node β) : (x >>= f).Escapes node := by
  obtain ⟨e, he, houtside⟩ := h
  exact ⟨e, (run_bind_of_result_error he f).1, houtside⟩

lemma Action.escapes_lift (h : e.isScanFailure = false) (node : Node) :
    (lift (.error e) : Action Node α).Escapes node := ⟨e, rfl, h⟩

lemma Action.not_escapes (h : x.Confined Pool.Decodes (fun _ => True) fun e => e.isScanFailure = true)
    (hdecodes : node.pool.Decodes) : ¬ x.Escapes node := by
  rintro ⟨e, he, houtside⟩
  rw [(h node hdecodes).failure e he] at houtside
  cases houtside

end

namespace StateView

variable {url : String} {d : Direction} {spacing start : Int} {form : RequestForm}
  {request : ScanRequest} {block : Nat} {node : Node} {n : Int}

lemma find_escapes (hpos : 0 < spacing) (hcall : ∀ label, (v.call label
      (.word (Bitmap.position (Bitmap.firstCompressed d spacing start)).word) block).Escapes node) :
    (v.find (.int block) (.int start) d (.int spacing)).Escapes node := by
  rw [find_eq, block_int, Action.lift_ok_bind, Bitmap.Probe.ofValues_int, Bitmap.at?_of_pos hpos,
    Action.lift_ok_bind]
  apply Action.Escapes.bind
  unfold word Bitmap.Probe.word
  rw [block_int, Action.lift_ok_bind]
  rcases Text.composed_cases
    [.int (Bitmap.position (Bitmap.firstCompressed d spacing start)).word] with ⟨-, htold⟩ | ⟨-, huntold⟩
  · rw [htold, Action.lift_ok_bind, Value.toInteger_int, Action.lift_ok_bind]
    exact (hcall _).bind _
  · rw [huntold, Action.lift_error_bind]
    exact Action.escapes_lift rfl node

lemma call_escapes_out_of_range (hurl : v.transport = .endpoint url) (hn : Abi.fits 16 n = false)
    (label : String) (block : Nat) (node : Node) : (v.call label (.word n) block).Escapes node := by
  have hadmits : v.transport.admits (.word n) = .error .argumentOutOfRange := by
    rw [hurl]
    exact if_neg (Bool.eq_false_iff.mp hn)
  unfold call
  rw [hadmits, Action.lift_error_bind]
  exact Action.escapes_lift rfl node

lemma call_escapes_at_long_block (hblock : (Value.int block).isShort = false) {fault : Fault}
    (hfault : node.fault? (.word n) = some fault) (label : String) :
    (v.call label (.word n) block).Escapes node := by
  cases hadmits : v.transport.admits (.word n) with
  | error e =>
    obtain rfl := Transport.eq_argumentOutOfRange_of_admits hadmits
    unfold call
    rw [hadmits, Action.lift_error_bind]
    exact Action.escapes_lift rfl node
  | ok _ =>
    obtain ⟨lines, -, hrun⟩ := run_call_failed hadmits label block fault
    refine ⟨_, congrArg Outcome.result (hrun node hfault), ?_⟩
    rw [Failure.told_readFailed, hblock]
    rfl

lemma scan_escapes (hready : form.ready domain = .ok request) (hsteps : request.maxSteps ≠ 0)
    (hfind : (v.find form.snapshot (.int request.start) request.direction
      (.int request.spacing)).Escapes node) :
    (Scanner.scan ⟨v.provider, domain⟩ form).Escapes node := by
  obtain ⟨rfl, -, -⟩ := RequestForm.check_eq_ok_iff.mp (RequestForm.check_of_ready hready).1
  obtain ⟨left, hleft⟩ := Nat.exists_eq_succ_of_ne_zero hsteps
  have hasked : (v.provider.find request.snapshot (.int request.start) request.direction
      (.int request.spacing)).Escapes node := by
    obtain ⟨e, he, houtside⟩ := hfind
    refine ⟨e, ?_, houtside⟩
    rw [← Provider.stirred_id v.provider, Provider.result_find_stirred]
    exact he
  rw [Scanner.scan_of_ready hready]
  apply Action.Escapes.bind
  rw [hleft, Scanner.walk_succ]
  exact (hasked.bind _).bind _

/-- A scan from a cursor whose first compressed tick has more than 24 bits escapes the family at once. -/
lemma scan_escapes_out_of_range (hurl : v.transport = .endpoint url) (hstart : domain.contains start = true)
    (hfirst : Abi.fits 24 (Bitmap.firstCompressed d 1 start) = false) (node : Node) :
    ∃ form, RequestForm.Modest form domain ∧
      (Scanner.scan ⟨v.provider, domain⟩ form).Escapes node := by
  let form : RequestForm := ⟨.int (0 : Nat), .int start, .ok d, .int (1 : Nat), .int 1⟩
  let request : ScanRequest := ⟨.int (0 : Nat), start, d, 1, 1⟩
  have hcheck : form.check domain = .ok request :=
    RequestForm.check_eq_ok_iff.mpr ⟨rfl, one_pos, hstart⟩
  have hroom : request.maxSteps ≤ Scanner.slotLimit := show 1 ≤ Scanner.slotLimit by decide
  have hword : Abi.fits 16 (Bitmap.position (Bitmap.firstCompressed d 1 start)).word = false := by
    rw [Bool.eq_false_iff, ne_eq, Bitmap.fits_word_iff, hfirst]
    exact Bool.false_ne_true
  refine ⟨form, RequestForm.modest_of_check hcheck hroom (.inl rfl), ?_⟩
  apply scan_escapes (RequestForm.ready_of_le hcheck hroom) one_ne_zero
  exact find_escapes one_pos fun label => call_escapes_out_of_range hurl hword label 0 node

/-- The scan asks for a word at a block, or is refused for another snapshot, and cannot tell either. -/
lemma scan_escapes_at_long_snapshot (v : StateView) (hready : form.ready domain = .ok request)
    (hlong : form.snapshot.isShort = false)
    (hsteps : request.maxSteps = 0 → ∀ block : Nat, form.snapshot ≠ .int block) :
    (Scanner.scan ⟨v.provider, domain⟩ form).Escapes .deaf := by
  cases hblock : StateView.block form.snapshot with
  | error e =>
    refine ⟨e, ?_, ?_⟩
    · rw [← Provider.stirred_id v.provider]
      exact scan_of_block_error hready hblock _ _
    · rw [unpinned_of_block hblock,
        Failure.told_of_long (e := .unpinned form.snapshot) (List.mem_singleton_self _) hlong]
      rfl
  | ok block =>
    have hsnapshot := eq_int_of_block hblock
    have hcheck := (RequestForm.check_of_ready hready).1
    apply scan_escapes hready fun hnone => hsteps hnone block hsnapshot
    rw [hsnapshot] at hlong ⊢
    apply find_escapes (RequestForm.check_eq_ok_iff.mp hcheck).2.1
    intro label
    exact call_escapes_at_long_block hlong rfl label

/-- A request that is not modest escapes the family over a node that fails every read of a word. -/
lemma scan_escapes_of_not_modest (v : StateView) (h : ¬ form.Modest domain) :
    (Scanner.scan ⟨v.provider, domain⟩ form).Escapes .deaf := by
  rcases form.ready_cases domain with
    ⟨fault, hread, hready⟩ | ⟨request, hcheck, ⟨-, hready⟩ | ⟨hroom, hready⟩⟩
  · rw [Scanner.scan_of_ready_error hready]
    rcases Failure.told_eq_or (.request fault) with htold | htold
    · have hshort := (Failure.told_request_iff fault).mp htold
      exact absurd (RequestForm.modest_of_read_error hread hshort) h
    · rw [htold]
      exact Action.escapes_lift rfl .deaf
  · rw [Scanner.scan_of_ready_error hready]
    apply Action.escapes_lift
    unfold Scanner.noRoom
    split_ifs <;> rfl
  · obtain ⟨hlong, hsteps⟩ := not_or.mp (mt (RequestForm.modest_of_check hcheck hroom) h)
    exact scan_escapes_at_long_snapshot v hready (Bool.eq_false_of_not_eq_true hlong)
      fun hnone block hblock => hsteps ⟨hnone, block, hblock⟩

end StateView

/-- Over nodes whose answers decode, runs of a view behind an endpoint fail in no other way than those of the
family, but for a call that cannot be made, slots that cannot be laid out and messages that cannot be
written. The runs of modest requests come to none of these exactly when the ticks of the domain, and the one
after it, have 24 bits. A request that is not modest comes to one over some node, whatever the domain. -/
theorem chain_failures_known_iff (v : StateView) {url : String} (hurl : v.transport = .endpoint url)
    (h : domain.minKey < domain.maxKey) :
    v.FailsWithin domain (fun e => e.isScanFailure = true ∨ e = .argumentOutOfRange ∨
      e = .tooManyDigits none ∨ ∃ maxSteps, e = Scanner.noRoom maxSteps) ∧
    (v.ModestlyFailsWithin domain (fun e => e.isScanFailure = true) ↔
      -8388608 ≤ domain.minKey ∧ domain.maxKey < 8388607) ∧
    ∀ form : RequestForm, ¬ form.Modest domain → ∃ node e, node.pool.Decodes ∧
      ((Scanner.scan ⟨v.provider, domain⟩ form).run node).result = .error e ∧
      e.isScanFailure = false := by
  have hdeaf : Node.deaf.pool.Decodes := Pool.decodes_of_no_ticks rfl rfl
  refine ⟨v.failsWithin domain, ⟨fun hknown => ?_, ?_⟩, ?_⟩
  · -- Any other domain has a bound whose search leaves the range of its word.
    have hscan : ∀ d start, domain.contains start = true →
        Abi.fits 24 (Bitmap.firstCompressed d 1 start) = true := by
      intro d start hstart
      by_contra hfirst
      obtain ⟨form, hmodest, hescapes⟩ :=
        StateView.scan_escapes_out_of_range hurl hstart (Bool.eq_false_of_not_eq_true hfirst) .deaf
      have hscans := (hknown (fun _ => id) fun _ _ h => h).scan form hmodest
      rw [Provider.stirred_id] at hscans
      exact Action.not_escapes hscans hdeaf hescapes
    have hlow := hscan .inclusive domain.minKey (KeyDomain.contains_iff.mpr ⟨le_rfl, h.le⟩)
    have hhigh := hscan .exclusive domain.maxKey (KeyDomain.contains_iff.mpr ⟨h.le, le_rfl⟩)
    simp only [Bitmap.firstCompressed, Int.ediv_one, Abi.fits_24_iff] at hlow hhigh
    omega
  · rintro ⟨hlow, hhigh⟩ change hchange
    exact StateView.modestRunsConfined hlow hhigh hchange v
  · intro form hform
    obtain ⟨e, he, houtside⟩ := v.scan_escapes_of_not_modest hform
    exact ⟨.deaf, e, hdeaf, he, houtside⟩

/-- Behind an endpoint and in the domain of all pool ticks: the call that the node fails is reported. -/
theorem chain_failures_known_in_tick_domain :
    let v : StateView := ⟨.endpoint "http://node", .zero, ⟨List.replicate 32 7, rfl⟩⟩
    let node : Node := .start ⟨1, [], [], none, .null, .null, [],
      [("getTickLiquidity", ⟨"TimeoutError", "no answer", none⟩)]⟩
    let form : RequestForm := ⟨.int (5 : Nat), .int 0, .ok .exclusive, .int 1, .int 1⟩
    let failure : Failure :=
      .readFailed "getTickLiquidity(255)" 5 (.raised "TimeoutError" "no answer")
    v.transport = .endpoint "http://node" ∧ KeyDomain.ticks.minKey < KeyDomain.ticks.maxKey ∧
      node.pool.Decodes ∧ form.Modest .ticks ∧
      v.ModestlyFailsWithin .ticks (fun e => e.isScanFailure = true) ∧
      ((Scanner.scan ⟨v.provider, .ticks⟩ form).run node).result = .error failure ∧
      failure.isScanFailure = true := by
  intro v node form failure
  have hurl : v.transport = .endpoint "http://node" := rfl
  have hbounds : KeyDomain.ticks.minKey < KeyDomain.ticks.maxKey := by decide
  have hdecodes : node.pool.Decodes := Pool.decodes_of_no_ticks rfl rfl
  have hcheck : form.check .ticks = .ok ⟨.int (5 : Nat), 0, .exclusive, 1, 1⟩ := rfl
  have hmodest : form.Modest .ticks := RequestForm.modest_of_check hcheck (by decide) (.inl rfl)
  have hresult : ((Scanner.scan ⟨v.provider, .ticks⟩ form).run node).result = .error failure := by
    subst form failure node v
    rfl
  have hknown := (chain_failures_known_iff v hurl hbounds).2.1.mpr (by decide)
  have hscans := (hknown (fun _ => id) fun _ _ h => h).scan form hmodest node hdecodes
  rw [Provider.stirred_id] at hscans
  exact ⟨hurl, hbounds, hdecodes, hmodest, hknown, hresult, hscans.failure _ hresult⟩

/-- In a wider domain a scan walks up to the last word that a call can name, and ends with a failure
outside the family at the next one. -/
theorem chain_failure_unknown_far_up :
    let v : StateView := ⟨.endpoint "http://node", .zero, ⟨List.replicate 32 7, rfl⟩⟩
    let domain : KeyDomain := ⟨-9000000, 9000000⟩
    let node : Node := .start ⟨1, [], [], none, .null, .null, [], []⟩
    let run := (Scanner.scan ⟨v.provider, domain⟩
      ⟨.int (5 : Nat), .int 8388600, .ok .exclusive, .int 2, .int 1⟩).run node
    domain.minKey < domain.maxKey ∧ node.pool.Decodes ∧
      chainReads run.events = [.word 32767, .liquidity 8388607].map (v.readOf 5) ∧
      ∃ e, run.result = .error e ∧ e.isScanFailure = false := by
  intro v domain node run
  refine ⟨by decide, Pool.decodes_of_no_ticks rfl rfl, ?_, .argumentOutOfRange, ?_, rfl⟩
  · subst run node domain v
    rfl
  · subst run node domain v
    rfl

end TickWalk
