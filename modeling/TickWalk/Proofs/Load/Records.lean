import TickWalk.Proofs.Compositional

/-!
# What is so of all records that are loaded

Records come from fetches alone. Where every fetch from states of one kind answers amounts that make a
record with a property, and no read leads to a state of another kind, all records of a scan, a load or a
band have the property.
-/

namespace TickWalk

variable {σ α β : Type}

namespace Action

/-- From states with `I` the action leads to such states only, and its answers have the property `Q`. -/
def Serves (I : σ → Prop) (Q : α → Prop) (x : Action σ α) : Prop :=
  ∀ s, I s → I (x.run s).state ∧ ∀ a, (x.run s).result = .ok a → Q a

variable {I : σ → Prop} {Q : α → Prop} {R : β → Prop} {x : Action σ α} {f : α → Action σ β}

lemma serves_lift {r : Except Failure α} (h : ∀ a, r = .ok a → Q a) : (lift r : Action σ α).Serves I Q :=
  fun _ hs => ⟨hs, h⟩

lemma serves_pure {a : α} (h : Q a) : (pure a : Action σ α).Serves I Q := by
  apply serves_lift
  rintro _ ⟨⟩
  exact h

lemma serves_note (event : Event) : (note event : Action σ Unit).Serves I fun _ => True :=
  fun _ hs => ⟨hs, fun _ _ => trivial⟩

lemma serves_log (level : Journal.Level) (source text : String) :
    (log level source text : Action σ Unit).Serves I fun _ => True := serves_note _

lemma Serves.bind (hx : x.Serves I Q) (hf : ∀ a, Q a → (f a).Serves I R) : (x >>= f).Serves I R := by
  intro s hs
  obtain ⟨hstate, hanswer⟩ := hx s hs
  cases hrun : x.run s with
  | mk result t before =>
    rw [hrun] at hstate hanswer
    cases result with
    | error e =>
      rw [run_bind_of_error hrun]
      refine ⟨hstate, ?_⟩
      rintro b ⟨⟩
    | ok a =>
      rw [run_bind_of_ok hrun]
      exact hf a (hanswer a rfl) t hstate

/-- What is answered by the first part plays no role for the second. -/
lemma Serves.then {P : α → Prop} (hx : x.Serves I P) (hf : ∀ a, (f a).Serves I R) :
    (x >>= f).Serves I R := hx.bind fun a _ => hf a

end Action

/-- From states with `I` the provider is asked about a snapshot without leaving these states. Its
candidates are integers, and what it tells of one strictly inside the domain makes a record with the
property `Q`. -/
structure Provider.Supplies (p : Provider σ) (I : σ → Prop) (domain : KeyDomain) (snapshot : Value)
    (Q : TickRecord → Prop) : Prop where
  find : ∀ cursor d spacing, (p.find snapshot cursor d spacing).Serves I fun candidate =>
    ∃ (flag : Value) (t : Int), candidate.pair = .ok (flag, .int t)
  fetch : ∀ t, domain.strictlyInside t = true → (p.fetch snapshot (.int t)).Serves I fun stored =>
    ∃ gross net : Int, stored.pair = .ok (.int gross, .int net) ∧ ∀ flag, Q ⟨flag, t, gross, net⟩
  version : (p.version snapshot).Serves I fun _ => True

variable {p : Provider σ} {I : σ → Prop} {domain : KeyDomain} {Q : TickRecord → Prop}

namespace Scanner

variable {request : ScanRequest}

lemma serves_visit (h : p.Supplies I domain request.snapshot Q) (found : Nat) (cursor : Value) :
    (visit ⟨p, domain⟩ request found cursor).Serves I fun visited =>
      ∀ hit, visited = some hit → Q hit.1 := by
  unfold visit
  apply (h.find _ _ _).bind
  rintro candidate ⟨flag, t, hpair⟩
  rw [hpair, Action.lift_ok_bind]
  dsimp only
  rw [KeyDomain.admits_int, Action.lift_ok_bind]
  cases hin : domain.strictlyInside t with
  | false =>
    apply (Action.serves_log _ _ _).then
    rintro ⟨⟩
    apply Action.serves_pure
    rintro hit ⟨⟩
  | true =>
    apply (h.fetch t hin).bind
    rintro stored ⟨gross, net, hamounts, hQ⟩
    rw [hamounts, Action.lift_ok_bind]
    dsimp only
    rw [TickRecord.ofValues_int, Direction.advance_int, Action.lift_ok_bind, Action.lift_ok_bind]
    have hrecord : (pure (some (⟨flag.truthy, t, gross, net⟩, .int (request.direction.nextCursor t))) :
        Action σ (Option (TickRecord × Value))).Serves I fun visited =>
          ∀ hit, visited = some hit → Q hit.1 := by
      apply Action.serves_pure
      rintro _ ⟨⟩
      exact hQ _
    split
    · exact (Action.serves_log _ _ _).then fun _ => hrecord
    · exact hrecord

lemma serves_walk (h : p.Supplies I domain request.snapshot Q) (left found : Nat) (cursor : Value) :
    (walk ⟨p, domain⟩ request left found cursor).Serves I fun records => ∀ r ∈ records, Q r := by
  induction left generalizing found cursor with
  | zero => exact Action.serves_pure (List.forall_mem_nil _)
  | succ left ih =>
    rw [walk_succ]
    apply (serves_visit h found cursor).bind
    intro visited hvisited
    cases visited with
    | none => exact Action.serves_pure (List.forall_mem_nil _)
    | some hit =>
      obtain ⟨record, next⟩ := hit
      apply (ih (found + 1) next).bind
      intro rest hrest
      exact Action.serves_pure (List.forall_mem_cons.mpr ⟨hvisited _ rfl, hrest⟩)

theorem serves_scan {form : RequestForm} (h : p.Supplies I domain form.snapshot Q) :
    (scan ⟨p, domain⟩ form).Serves I fun result => ∀ r ∈ result.validTicks, Q r := by
  rw [scan_eq]
  apply (Action.serves_lift fun _ hready => hready).bind
  intro request hready
  obtain ⟨rfl, -, -⟩ := RequestForm.check_eq_ok_iff.mp (RequestForm.check_of_ready hready).1
  apply (serves_walk h _ _ _).bind
  intro records hrecords
  apply h.version.then
  intro version
  apply (Action.serves_log _ _ _).then
  rintro ⟨⟩
  apply Action.serves_pure
  change ∀ r ∈ (ScanResult.padded request.maxSteps records version request.direction).validTicks, Q r
  rw [ScanResult.validTicks_padded]
  exact hrecords

end Scanner

lemma LoadRequest.serves_loop {r : LoadRequest} (h : p.Supplies I domain r.snapshot Q) (fuel : Nat)
    (cursor : Value) {loaded : Loaded} (hloaded : ∀ r ∈ loaded.records, Q r) :
    (r.loop ⟨p, domain⟩ fuel cursor loaded).Serves I fun after => ∀ r ∈ after.records, Q r := by
  induction fuel generalizing cursor loaded with
  | zero => exact Action.serves_pure hloaded
  | succ fuel ih =>
    unfold loop
    apply (Action.serves_lift fun _ _ => trivial).then
    intro more
    cases more with
    | false => exact Action.serves_pure hloaded
    | true =>
      apply (Action.serves_lift fun _ _ => trivial).then
      intro steps
      apply (Scanner.serves_scan h).bind
      intro result hresult
      apply (Action.serves_lift fun _ _ => trivial).then
      intro version
      have hall : ∀ r ∈ loaded.records ++ result.validTicks, Q r :=
        List.forall_mem_append.mpr ⟨hloaded, hresult⟩
      dsimp only
      split
      · exact ih _ hall
      · exact Action.serves_pure hall

theorem serves_loadTicks {r : LoadRequest} (h : p.Supplies I domain r.snapshot Q) :
    (loadTicks ⟨p, domain⟩ r).Serves I fun answer => ∀ r ∈ answer.1, Q r := by
  unfold loadTicks
  apply (Action.serves_lift fun _ _ => trivial).then
  rintro ⟨⟩
  apply (LoadRequest.serves_loop h _ _ (List.forall_mem_nil _)).bind
  intro loaded hloaded
  have hend (version : Value) : (do
      Action.log .debug LoadRequest.source
        (s!"Loaded {loaded.records.length} {r.direction.name} ticks from {r.start.display} " ++
          s!"in {loaded.batches} batches")
      pure (loaded.records, version) : Action σ _).Serves I fun answer => ∀ r ∈ answer.1, Q r :=
    (Action.serves_log _ _ _).then fun _ => Action.serves_pure hloaded
  dsimp only
  split
  · exact hend _
  · exact h.version.then hend

theorem serves_loadBand {r : BandRequest} (h : p.Supplies I domain r.snapshot Q) :
    (loadBand ⟨p, domain⟩ r).Serves I fun band => (∀ r ∈ band.below, Q r) ∧ ∀ r ∈ band.above, Q r := by
  unfold loadBand
  apply (serves_loadTicks (r := r.side .inclusive none) h).bind
  rintro ⟨below, version⟩ hbelow
  apply (serves_loadTicks (r := r.side .exclusive (some version)) h).bind
  rintro ⟨above, told⟩ habove
  apply (Action.serves_lift fun _ _ => trivial).then
  intro line
  exact (Action.serves_log _ _ _).then fun _ => Action.serves_pure ⟨hbelow, habove⟩

end TickWalk
