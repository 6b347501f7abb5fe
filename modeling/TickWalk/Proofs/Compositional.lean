import TickWalk.Load.Batches
import TickWalk.Proofs.Course
import TickWalk.Proofs.Scan.Walk
import TickWalk.Proofs.Value

/-!
# What scans and loads take over from their provider

Scans and loads are made of reads of a provider, of steps that only compute, and of lines in the
journal. A property of actions that sequences take over from their parts therefore holds of them as
soon as the reads that they can come to have it. Where the provider answers with integers, these are
searches from cursors in the domain and fetches of ticks strictly inside it, and no step that computes
fails but for a request that is refused or asks for too many slots, a load that is refused, and a version
that has changed or cannot be shown.
-/

namespace TickWalk

variable {σ α β : Type}

namespace Action

def MayAnswer (x : Action σ α) (a : α) : Prop := ∃ s, (x.run s).result = .ok a

lemma eq_ok_of_mayAnswer {r : Except Failure α} {a : α} (h : (lift r : Action σ α).MayAnswer a) :
    r = .ok a := by
  obtain ⟨s, hs⟩ := h
  exact hs

lemma exists_mayAnswer_of_bind {x : Action σ α} {f : α → Action σ β} {b : β}
    (h : (x >>= f).MayAnswer b) : ∃ a, x.MayAnswer a ∧ (f a).MayAnswer b := by
  obtain ⟨s, hs⟩ := h
  cases hrun : x.run s with
  | mk result t before =>
    cases result with
    | error e =>
      rw [run_bind_of_error hrun] at hs
      cases hs
    | ok a =>
      rw [run_bind_of_ok hrun] at hs
      exact ⟨a, ⟨s, congrArg Outcome.result hrun⟩, t, hs⟩

/-- A property of actions that holds of every computation with no other failures than those of `F`, of
every journal line, and of a sequence when it holds of the parts. -/
structure CompositionalOn (F : Failure → Prop) (C : (α : Type) → Action σ α → Prop) : Prop where
  lift : ∀ {α : Type} (r : Except Failure α), (∀ e, r = .error e → F e) → C α (Action.lift r)
  log : ∀ (level : Journal.Level) (source text : String), C Unit (Action.log level source text)
  bind : ∀ {α β : Type} {x : Action σ α} {f : α → Action σ β}, C α x →
    (∀ a, x.MayAnswer a → C β (f a)) → C β (x >>= f)

abbrev Compositional (C : (α : Type) → Action σ α → Prop) : Prop := CompositionalOn (fun _ => True) C

variable {F : Failure → Prop} {C : (α : Type) → Action σ α → Prop}

lemma CompositionalOn.pure (h : CompositionalOn F C) (a : α) : C α (Pure.pure a) := by
  apply h.lift (.ok a)
  intro e he
  cases he

lemma Compositional.compute (h : Compositional C) (r : Except Failure α) : C α (Action.lift r) :=
  h.lift r fun _ _ => trivial

lemma keeps_compositional (s : σ) : Compositional fun (α : Type) (x : Action σ α) => x.Keeps s := by
  constructor
  case lift => exact fun r _ => keeps_lift r s
  case log => exact fun level source text => keeps_log level source text s
  case bind =>
    intro α β x f hx hf
    have hanswer : x.Ensures s x.MayAnswer := ⟨hx, fun a ha => ⟨s, ha⟩⟩
    exact (hanswer.bind fun a ha => (hf a ha).ensures trivial).state

end Action

namespace LoadRequest

variable {r : LoadRequest}

lemma exists_parts_of_check (h : r.check = .ok ()) :
    ∃ count batch, r.count.parts? = some count ∧ r.batch.parts? = some batch := by
  obtain ⟨negative, hless, h⟩ := exists_of_bind_ok h
  cases negative with
  | true => cases h
  | false =>
    obtain ⟨none, hatMost, -⟩ := exists_of_bind_ok h
    obtain ⟨count, -, hcount, -⟩ := Value.exists_parts_of_less hless
    obtain ⟨batch, -, hbatch, -⟩ := Value.exists_parts_of_atMost hatMost
    exact ⟨count, batch, hcount, hbatch⟩

lemma exists_less_of_check (h : r.check = .ok ()) (n : Nat) :
    ∃ more, (Value.int n).less r.count = .ok more := by
  obtain ⟨count, -, hcount, -⟩ := exists_parts_of_check h
  have hn : (Value.int n).parts? = some (.ofInt n) := rfl
  exact Value.exists_less hn hcount

lemma exists_steps_of_check (h : r.check = .ok ()) (got : Nat) : ∃ steps, r.steps got = .ok steps := by
  obtain ⟨count, batch, hcount, hbatch⟩ := exists_parts_of_check h
  obtain ⟨missing, parts, hminus, hparts⟩ := Value.exists_minus hcount got
  obtain ⟨fewer, hless⟩ := Value.exists_less hparts hbatch
  unfold steps
  rw [hminus, ok_bind, hless, ok_bind]
  cases fewer <;> exact ⟨_, rfl⟩

end LoadRequest

/-- All reads that scans in a domain make of a snapshot have the property. What they answer are
integers. -/
structure Provider.Reads (p : Provider σ) (C : (α : Type) → Action σ α → Prop) (domain : KeyDomain)
    (snapshot : Value) : Prop where
  find : ∀ cursor d spacing, domain.contains cursor = true → 0 < spacing →
    C Value (p.find snapshot (.int cursor) d (.int spacing))
  candidate : ∀ cursor d spacing candidate,
    (p.find snapshot cursor d spacing).MayAnswer candidate →
      ∃ (flag : Value) (t : Int), candidate.pair = .ok (flag, .int t)
  fetch : ∀ t, domain.strictlyInside t = true → C Value (p.fetch snapshot (.int t))
  amounts : ∀ t stored, (p.fetch snapshot (.int t)).MayAnswer stored →
    ∃ gross net : Int, stored.pair = .ok (.int gross, .int net)
  version : C Value (p.version snapshot)

variable {F : Failure → Prop} {C : (α : Type) → Action σ α → Prop} {p : Provider σ} {domain : KeyDomain}

namespace Scanner

variable {request : ScanRequest}

lemma visit_compositional (h : Action.CompositionalOn F C)
    (hreads : p.Reads C domain request.snapshot) (hpos : 0 < request.spacing) (found : Nat)
    {cursor : Int} (hcursor : domain.contains cursor = true) :
    C (Option (TickRecord × Value)) (visit ⟨p, domain⟩ request found (.int cursor)) := by
  unfold visit
  apply h.bind (hreads.find cursor request.direction request.spacing hcursor hpos)
  intro candidate hcandidate
  obtain ⟨flag, t, hpair⟩ := hreads.candidate _ _ _ candidate hcandidate
  rw [hpair, Action.lift_ok_bind]
  dsimp only
  rw [KeyDomain.admits_int, Action.lift_ok_bind]
  cases hin : domain.strictlyInside t with
  | false => exact h.bind (h.log _ _ _) fun _ _ => h.pure none
  | true =>
    apply h.bind (hreads.fetch t hin)
    intro stored hstored
    obtain ⟨gross, net, hamounts⟩ := hreads.amounts t stored hstored
    rw [hamounts, Action.lift_ok_bind]
    dsimp only
    rw [TickRecord.ofValues_int, Direction.advance_int]
    split
    · exact h.bind (h.log _ _ _) fun _ _ => h.pure _
    · exact h.pure _

lemma next_of_visit (hreads : p.Reads C domain request.snapshot) {found : Nat} {cursor next : Value}
    {record : TickRecord}
    (h : (visit ⟨p, domain⟩ request found cursor).MayAnswer (some (record, next))) :
    domain.strictlyInside record.tick = true ∧
      next = .int (request.direction.nextCursor record.tick) := by
  unfold visit at h
  obtain ⟨candidate, hcandidate, h⟩ := Action.exists_mayAnswer_of_bind h
  obtain ⟨flag, t, hpair⟩ := hreads.candidate _ _ _ candidate hcandidate
  rw [hpair, Action.lift_ok_bind] at h
  dsimp only at h
  rw [KeyDomain.admits_int, Action.lift_ok_bind] at h
  cases hin : domain.strictlyInside t with
  | false =>
    rw [hin] at h
    obtain ⟨_, -, h⟩ := Action.exists_mayAnswer_of_bind h
    cases Action.eq_ok_of_mayAnswer h
  | true =>
    rw [hin, if_pos rfl] at h
    obtain ⟨stored, hstored, h⟩ := Action.exists_mayAnswer_of_bind h
    obtain ⟨gross, net, hamounts⟩ := hreads.amounts t stored hstored
    rw [hamounts, Action.lift_ok_bind] at h
    dsimp only at h
    rw [TickRecord.ofValues_int, Direction.advance_int, Action.lift_ok_bind, Action.lift_ok_bind] at h
    have hend : (pure (some (⟨flag.truthy, t, gross, net⟩, .int (request.direction.nextCursor t))) :
        Action σ (Option (TickRecord × Value))).MayAnswer (some (record, next)) := by
      split at h
      · obtain ⟨_, -, h⟩ := Action.exists_mayAnswer_of_bind h
        exact h
      · exact h
    obtain ⟨rfl, rfl⟩ :=
      Prod.mk.inj (Option.some.inj (Except.ok.inj (Action.eq_ok_of_mayAnswer hend)))
    exact ⟨hin, rfl⟩

lemma inside_of_walk (hreads : p.Reads C domain request.snapshot) {left found : Nat} {cursor : Value}
    {records : List TickRecord} (h : (walk ⟨p, domain⟩ request left found cursor).MayAnswer records) :
    ∀ record ∈ records, domain.strictlyInside record.tick = true := by
  induction left generalizing found cursor records with
  | zero =>
    obtain rfl := Except.ok.inj (Action.eq_ok_of_mayAnswer h)
    exact List.forall_mem_nil _
  | succ left ih =>
    rw [walk_succ] at h
    obtain ⟨visited, hvisited, h⟩ := Action.exists_mayAnswer_of_bind h
    cases visited with
    | none =>
      obtain rfl := Except.ok.inj (Action.eq_ok_of_mayAnswer h)
      exact List.forall_mem_nil _
    | some hit =>
      obtain ⟨record, next⟩ := hit
      obtain ⟨rest, hrest, h⟩ := Action.exists_mayAnswer_of_bind h
      obtain rfl := Except.ok.inj (Action.eq_ok_of_mayAnswer h)
      exact List.forall_mem_cons.mpr ⟨(next_of_visit hreads hvisited).1, ih hrest⟩

lemma walk_compositional (h : Action.CompositionalOn F C)
    (hreads : p.Reads C domain request.snapshot) (hpos : 0 < request.spacing) (left found : Nat)
    {cursor : Int} (hcursor : domain.contains cursor = true) :
    C (List TickRecord) (walk ⟨p, domain⟩ request left found (.int cursor)) := by
  induction left generalizing found cursor with
  | zero => exact h.pure []
  | succ left ih =>
    rw [walk_succ]
    apply h.bind (visit_compositional h hreads hpos found hcursor)
    intro visited hvisited
    cases visited with
    | none => exact h.pure []
    | some hit =>
      obtain ⟨record, next⟩ := hit
      obtain ⟨hin, rfl⟩ := next_of_visit hreads hvisited
      have hnext := KeyDomain.contains_nextCursor hin request.direction
      exact h.bind (ih (found + 1) hnext) fun rest _ => h.pure (record :: rest)

/-- A scan has every property that its reads have, if what keeps it from being made has it. -/
theorem scan_compositionalOn (h : Action.CompositionalOn F C) {form : RequestForm}
    (hown : ∀ e, form.ready domain = .error e → F e) (hreads : p.Reads C domain form.snapshot) :
    C ScanResult (scan ⟨p, domain⟩ form) := by
  rw [scan_eq]
  cases hready : form.ready domain with
  | error e =>
    apply h.lift (.error e)
    rintro _ ⟨rfl⟩
    exact hown e hready
  | ok request =>
    obtain ⟨rfl, hpos, hstart⟩ :=
      RequestForm.check_eq_ok_iff.mp (RequestForm.check_of_ready hready).1
    rw [Action.lift_ok_bind]
    apply h.bind (walk_compositional h hreads hpos _ _ hstart)
    intro records _
    apply h.bind hreads.version
    intro version _
    exact h.bind (h.log _ _ _) fun _ _ => h.pure _

theorem scan_compositional (h : Action.Compositional C) {form : RequestForm}
    (hreads : p.Reads C domain form.snapshot) : C ScanResult (scan ⟨p, domain⟩ form) :=
  scan_compositionalOn h (fun _ _ => trivial) hreads

lemma exists_walk_of_scan {form : RequestForm} {result : ScanResult}
    (h : (scan ⟨p, domain⟩ form).MayAnswer result) :
    ∃ request records, form = request.form ∧
      (walk ⟨p, domain⟩ request request.maxSteps 0 (.int request.start)).MayAnswer records ∧
      (p.version form.snapshot).MayAnswer result.version ∧
      result = ScanResult.padded request.maxSteps records result.version request.direction := by
  rw [scan_eq] at h
  obtain ⟨request, hready, hfollow⟩ := Action.exists_mayAnswer_of_bind h
  obtain ⟨hcheck, -⟩ := RequestForm.check_of_ready (Action.eq_ok_of_mayAnswer hready)
  obtain ⟨rfl, -, -⟩ := RequestForm.check_eq_ok_iff.mp hcheck
  obtain ⟨records, hrecords, hrest⟩ := Action.exists_mayAnswer_of_bind hfollow
  obtain ⟨version, hversion, hrest⟩ := Action.exists_mayAnswer_of_bind hrest
  obtain ⟨_, -, hrest⟩ := Action.exists_mayAnswer_of_bind hrest
  obtain rfl := Except.ok.inj (Action.eq_ok_of_mayAnswer hrest)
  exact ⟨request, records, rfl, hrecords, hversion, rfl⟩

lemma inside_of_lastTick? {form : RequestForm} (hreads : p.Reads C domain form.snapshot)
    {result : ScanResult} (h : (scan ⟨p, domain⟩ form).MayAnswer result) {last : Int}
    (hlast : result.lastTick? = some last) : domain.strictlyInside last = true := by
  obtain ⟨request, records, rfl, hwalk, -, hresult⟩ := exists_walk_of_scan h
  rw [hresult, ScanResult.lastTick?_padded, Option.map_eq_some_iff] at hlast
  obtain ⟨record, hrecord, rfl⟩ := hlast
  exact inside_of_walk hreads hwalk record (List.mem_of_getLast? hrecord)

end Scanner

namespace LoadRequest

variable {r : LoadRequest}

lemma agreed_eq_ok {known : Option Value} {observed version : Value}
    (h : agreed known observed = .ok version) :
    (known = none ∧ version = observed) ∨ (known = some version ∧ observed.same version = true) := by
  cases known with
  | none => exact .inl ⟨rfl, (Except.ok.inj h).symm⟩
  | some first =>
    by_cases hsame : observed.same first = true
    · rw [agreed, if_pos hsame] at h
      obtain rfl := Except.ok.inj h
      exact .inr ⟨rfl, hsame⟩
    · rw [agreed, if_neg hsame] at h
      cases h

lemma agreed_eq_error {known : Option Value} {observed : Value} {e : Failure}
    (h : agreed known observed = .error e) :
    ∃ expected, known = some expected ∧ e = (Failure.versionChanged expected observed).told := by
  cases known with
  | none => cases h
  | some expected =>
    unfold agreed at h
    dsimp only at h
    split at h
    · cases h
    · exact ⟨expected, rfl, (Except.error.inj h).symm⟩

/-- What a load goes by: the version that it has been told to expect, or one that it has been told by its
provider, if any. -/
def Knows (r : LoadRequest) (p : Provider σ) (known : Option Value) : Prop :=
  known = r.expected ∨
    r.expected = none ∧ ∃ version, known = some version ∧ (p.version r.snapshot).MayAnswer version

lemma knows_of_agreed {known : Option Value} {observed version : Value}
    (hobserved : (p.version r.snapshot).MayAnswer observed) (h : agreed known observed = .ok version)
    (hknown : r.Knows p known) : r.Knows p (some version) := by
  rcases agreed_eq_ok h with ⟨hnone, rfl⟩ | ⟨hsome, -⟩
  · rcases hknown with hexpected | ⟨hexpected, -⟩
    · exact .inr ⟨hexpected.symm.trans hnone, _, rfl, hobserved⟩
    · exact .inr ⟨hexpected, _, rfl, hobserved⟩
  · exact hsome ▸ hknown

/-- A batch of a load starts where the load does, or in the domain, and takes as many steps as are
missing and as a batch may have. -/
def Batch (r : LoadRequest) (domain : KeyDomain) (cursor steps : Value) : Prop :=
  (cursor = r.start ∨ ∃ t, cursor = .int t ∧ domain.contains t = true) ∧
    ∃ got : Nat, (Value.int got).less r.count = .ok true ∧ r.steps got = .ok steps

/-- Whatever a load ends with of its own accord is one of these failures. -/
structure FailsIn (r : LoadRequest) (p : Provider σ) (domain : KeyDomain) (F : Failure → Prop) :
    Prop where
  refused : ∀ e, r.check = .error e → F e
  batch : ∀ cursor steps, r.Batch domain cursor steps → ∀ e, RequestForm.ready
    ⟨r.snapshot, cursor, .ok r.direction, steps, r.spacing⟩ domain = .error e → F e
  changed : ∀ known observed, r.Knows p (some known) → (p.version r.snapshot).MayAnswer observed →
    F (.told (.versionChanged known observed))

lemma loop_compositional (h : Action.CompositionalOn F C) (hown : r.FailsIn p domain F)
    (hcheck : r.check = .ok ()) (hreads : p.Reads C domain r.snapshot) (fuel : Nat)
    {cursor : Value} (hcursor : cursor = r.start ∨ ∃ t, cursor = .int t ∧ domain.contains t = true)
    {loaded : Loaded} (hknown : r.Knows p loaded.version) :
    C Loaded (r.loop ⟨p, domain⟩ fuel cursor loaded) := by
  induction fuel generalizing cursor loaded with
  | zero => exact h.pure loaded
  | succ fuel ih =>
    unfold loop
    obtain ⟨more, hmore⟩ := exists_less_of_check hcheck loaded.records.length
    rw [hmore, Action.lift_ok_bind]
    cases more with
    | false => exact h.pure loaded
    | true =>
      obtain ⟨steps, hsteps⟩ := exists_steps_of_check hcheck loaded.records.length
      rw [hsteps, Action.lift_ok_bind]
      have hbatch : r.Batch domain cursor steps := ⟨hcursor, _, hmore, hsteps⟩
      apply h.bind (Scanner.scan_compositionalOn h (hown.batch cursor steps hbatch) hreads)
      intro result hresult
      obtain ⟨-, -, -, -, hversion, -⟩ := Scanner.exists_walk_of_scan hresult
      have hagreed : ∀ e, agreed loaded.version result.version = .error e → F e := by
        intro e he
        obtain ⟨known, hsome, rfl⟩ := agreed_eq_error he
        exact hown.changed known _ (hsome ▸ hknown) hversion
      apply h.bind (h.lift _ hagreed)
      intro version hsettled
      have hknown' := knows_of_agreed hversion (Action.eq_ok_of_mayAnswer hsettled) hknown
      dsimp only
      split
      · rename_i last hlast
        have hin := Scanner.inside_of_lastTick? hreads hresult hlast
        exact ih (.inr ⟨_, rfl, KeyDomain.contains_nextCursor hin _⟩) hknown'
      · exact h.pure _

lemma knows_of_loop {fuel : Nat} {cursor : Value} {loaded after : Loaded}
    (h : (r.loop ⟨p, domain⟩ fuel cursor loaded).MayAnswer after) (hknown : r.Knows p loaded.version) :
    r.Knows p after.version := by
  induction fuel generalizing cursor loaded with
  | zero =>
    rw [← Except.ok.inj (Action.eq_ok_of_mayAnswer h)]
    exact hknown
  | succ fuel ih =>
    unfold loop at h
    obtain ⟨more, -, h⟩ := Action.exists_mayAnswer_of_bind h
    cases more with
    | false =>
      rw [← Except.ok.inj (Action.eq_ok_of_mayAnswer h)]
      exact hknown
    | true =>
      obtain ⟨steps, -, h⟩ := Action.exists_mayAnswer_of_bind h
      obtain ⟨result, hresult, h⟩ := Action.exists_mayAnswer_of_bind h
      obtain ⟨version, hsettled, h⟩ := Action.exists_mayAnswer_of_bind h
      obtain ⟨-, -, -, -, hversion, -⟩ := Scanner.exists_walk_of_scan hresult
      have hknown' := knows_of_agreed hversion (Action.eq_ok_of_mayAnswer hsettled) hknown
      dsimp only at h
      split at h
      · exact ih h hknown'
      · rw [← Except.ok.inj (Action.eq_ok_of_mayAnswer h)]
        exact hknown'

end LoadRequest

/-- A load has every property that its reads have, if what it ends with of its own accord has it. -/
theorem loadTicks_compositionalOn (h : Action.CompositionalOn F C) {r : LoadRequest}
    (hown : r.FailsIn p domain F) (hreads : p.Reads C domain r.snapshot) :
    C (List TickRecord × Value) (loadTicks ⟨p, domain⟩ r) := by
  unfold loadTicks
  cases hcheck : r.check with
  | error e =>
    apply h.lift (.error e)
    rintro _ ⟨rfl⟩
    exact hown.refused e hcheck
  | ok u =>
    rw [Action.lift_ok_bind]
    apply h.bind (LoadRequest.loop_compositional h hown hcheck hreads _ (.inl rfl) (.inl rfl))
    intro loaded _
    have hend : ∀ version, C (List TickRecord × Value) (do
        Action.log .debug LoadRequest.source
          (s!"Loaded {loaded.records.length} {r.direction.name} ticks from {r.start.display} " ++
            s!"in {loaded.batches} batches")
        pure (loaded.records, version)) := fun version => h.bind (h.log _ _ _) fun _ _ => h.pure _
    dsimp only
    split
    · exact hend _
    · exact h.bind hreads.version fun version _ => hend version

lemma LoadRequest.knows_of_loadTicks {r : LoadRequest} {answer : List TickRecord × Value}
    (h : (loadTicks ⟨p, domain⟩ r).MayAnswer answer) : r.Knows p (some answer.2) := by
  obtain ⟨_, -, hloop⟩ := Action.exists_mayAnswer_of_bind h
  obtain ⟨loaded, hloaded, hrest⟩ := Action.exists_mayAnswer_of_bind hloop
  have hknown := knows_of_loop hloaded (.inl rfl)
  have hend : ∀ version, (do
      Action.log .debug LoadRequest.source
        (s!"Loaded {loaded.records.length} {r.direction.name} ticks from {r.start.display} " ++
          s!"in {loaded.batches} batches")
      pure (loaded.records, version) : Action σ _).MayAnswer answer → answer.2 = version := by
    intro version hend
    obtain ⟨_, -, hend⟩ := Action.exists_mayAnswer_of_bind hend
    rw [← Except.ok.inj (Action.eq_ok_of_mayAnswer hend)]
  dsimp only at hrest
  cases hversion : loaded.version with
  | some version =>
    rw [hversion] at hrest hknown
    rw [hend version hrest]
    exact hknown
  | none =>
    rw [hversion] at hrest hknown
    obtain ⟨version, htold, hrest⟩ := Action.exists_mayAnswer_of_bind hrest
    rw [hend version hrest]
    rcases hknown with hexpected | ⟨-, _, hsome, -⟩
    · exact .inr ⟨hexpected.symm, version, rfl, htold⟩
    · cases hsome

namespace BandRequest

variable {r : BandRequest}

def side (r : BandRequest) (d : Direction) (expected : Option Value) : LoadRequest :=
  ⟨r.snapshot, r.current, d, r.spacing, r.band, r.batch, expected⟩

/-- The count and the batch size of a band are looked at before anything else. -/
def check (r : BandRequest) : Except Failure Unit := (r.side .inclusive none).check

/-- Whatever a band ends with of its own accord is one of these failures. -/
structure FailsIn (r : BandRequest) (p : Provider σ) (domain : KeyDomain) (F : Failure → Prop) :
    Prop where
  below : (r.side .inclusive none).FailsIn p domain F
  above : ∀ version, (p.version r.snapshot).MayAnswer version →
    (r.side .exclusive (some version)).FailsIn p domain F
  untold : ∀ version, (p.version r.snapshot).MayAnswer version → ∀ text e,
    Text.composed [r.current, version] text = .error e → F e

end BandRequest

lemma BandRequest.mayAnswer_version {r : BandRequest} {below : List TickRecord × Value}
    (h : (loadTicks ⟨p, domain⟩ (r.side .inclusive none)).MayAnswer below) :
    (p.version r.snapshot).MayAnswer below.2 := by
  rcases LoadRequest.knows_of_loadTicks h with hnone | ⟨-, version, hversion, htold⟩
  · cases hnone
  · exact Option.some.inj hversion ▸ htold

/-- A band has every property that its reads have, if what it ends with of its own accord has it. -/
theorem loadBand_compositionalOn (h : Action.CompositionalOn F C) {r : BandRequest}
    (hown : r.FailsIn p domain F) (hreads : p.Reads C domain r.snapshot) :
    C TickBand (loadBand ⟨p, domain⟩ r) := by
  unfold loadBand
  apply h.bind (loadTicks_compositionalOn h hown.below hreads)
  intro below hbelow
  have htold := BandRequest.mayAnswer_version hbelow
  apply h.bind (loadTicks_compositionalOn h (hown.above below.2 htold) hreads)
  intro above _
  apply h.bind (h.lift _ (hown.untold below.2 htold _))
  intro line _
  exact h.bind (h.log _ _ _) fun _ _ => h.pure _

/-- All failures that scans and loads have of their own, but for those of a count or a batch size that is
refused. -/
structure Failure.OfScans (F : Failure → Prop) : Prop where
  refused : ∀ fault, F (.request fault)
  changed : ∀ expected observed, F (.versionChanged expected observed)
  untold : F (.tooManyDigits none)
  noRoom : ∀ maxSteps, F (Scanner.noRoom maxSteps)

namespace Failure.OfScans

lemma imp {F' : Failure → Prop} (hF : OfScans F) (h : ∀ e, F e → F' e) : OfScans F' :=
  ⟨fun _ => h _ (hF.refused _), fun _ _ => h _ (hF.changed _ _), h _ hF.untold,
    fun _ => h _ (hF.noRoom _)⟩

lemma told (hF : OfScans F) {e : Failure} (he : F e) : F e.told := by
  rcases told_eq_or e with heq | heq
  · rwa [heq]
  · rw [heq]
    exact hF.untold

lemma ready (hF : OfScans F) {form : RequestForm} : ∀ e, form.ready domain = .error e → F e := by
  intro e he
  rcases form.ready_cases domain with ⟨fault, -, hready⟩ | ⟨_, -, ⟨-, hready⟩ | ⟨-, hready⟩⟩
  · rw [Except.error.inj (he.symm.trans hready)]
    exact hF.told (hF.refused fault)
  · rw [Except.error.inj (he.symm.trans hready)]
    exact hF.noRoom _
  · cases he.symm.trans hready

lemma load (hF : OfScans F) {r : LoadRequest} (hrefused : ∀ e, r.check = .error e → F e) :
    r.FailsIn p domain F :=
  ⟨hrefused, fun _ _ _ => hF.ready, fun _ _ _ _ => hF.told (hF.changed _ _)⟩

lemma band (hF : OfScans F) {r : BandRequest} (hrefused : ∀ e, r.check = .error e → F e) :
    r.FailsIn p domain F := by
  refine ⟨hF.load hrefused, fun _ _ => hF.load hrefused, ?_⟩
  intro version _ text e he
  rw [Text.eq_tooManyDigits_of_composed he]
  exact hF.untold

end Failure.OfScans

lemma Failure.ofScans_true : OfScans fun _ => True :=
  ⟨fun _ => trivial, fun _ _ => trivial, trivial, fun _ => trivial⟩

theorem loadTicks_compositional (h : Action.Compositional C) {r : LoadRequest}
    (hreads : p.Reads C domain r.snapshot) :
    C (List TickRecord × Value) (loadTicks ⟨p, domain⟩ r) :=
  loadTicks_compositionalOn h (Failure.ofScans_true.load fun _ _ => trivial) hreads

end TickWalk
