import TickWalk.Load.Batches
import TickWalk.Script
import TickWalk.Proofs.Scan.Agreement
import TickWalk.Proofs.Scan.Store

/-!
# Loading in batches reads as one scan

A load scans batch after batch, and reads the version once a batch. Where version reads tell one
version and do not disturb the searches, the batches together search as a single scan does: the
cursor of the next batch is where the single scan would have gone on.
-/

namespace TickWalk

variable {σ : Type}

/-- A provider whose searches answer integers and do not notice when the version is read, and whose
version is always the same. States that are `alike` are those no search can tell apart. -/
structure Provider.Steady (p : Provider σ) (domain : KeyDomain) (snapshot version : Value)
    (alike : σ → σ → Prop) : Prop where
  symm : ∀ s t, alike s t → alike t s
  search : ∀ d spacing, p.SearchAlike p domain snapshot d spacing alike
  version : ∀ s t, alike s t → ∃ t', (p.version snapshot).Quiet t version t' ∧ alike s t'

variable {p : Provider σ} {domain : KeyDomain} {snapshot version : Value} {alike : σ → σ → Prop}
  {d : Direction} {spacing cursor : Int} {s t : σ}

lemma scan_agrees (h : p.Steady domain snapshot version alike) (hpos : 0 < spacing)
    (hcursor : domain.contains cursor = true) (hst : alike s t) (start : Int) (maxSteps : Nat)
    {steps : Nat} (hroom : steps ≤ Scanner.slotLimit) (found : Nat) :
    ((Scanner.walkTo ⟨p, domain⟩ ⟨snapshot, start, d, maxSteps, spacing⟩ steps found
      (.int cursor)).run s).Agrees alike
        (fun walked result => Walked domain d steps cursor walked ∧
          result = ScanResult.padded steps walked.1 version d)
        ((Scanner.scan ⟨p, domain⟩
          ⟨snapshot, .int cursor, .ok d, .int steps, .int spacing⟩).run t) := by
  have hcheck : RequestForm.check ⟨snapshot, .int cursor, .ok d, .int steps, .int spacing⟩ domain =
      .ok ⟨snapshot, cursor, d, steps, spacing⟩ :=
    RequestForm.check_eq_ok_iff.mpr ⟨rfl, hpos, hcursor⟩
  rw [Scanner.scan_of_ready (RequestForm.ready_of_le hcheck hroom), Scanner.follow_eq]
  refine (Scanner.walkTo_agrees (h.search d spacing) hst hcursor start cursor maxSteps steps steps
    found 0).bind_right ?_
  rintro walked _ s t ⟨rfl, hwalked⟩ hst
  obtain ⟨t', hversion, hst⟩ := h.version s t hst
  apply Outcome.Agrees.quiet_right hversion
  apply Outcome.Agrees.quiet_right (Action.quiet_log _ _ _ t')
  exact Outcome.Agrees.pure hst ⟨hwalked, rfl⟩

lemma LoadRequest.steps_int (start given : Value) (count batch : Int) (expected : Option Value)
    (got : Nat) :
    LoadRequest.steps ⟨snapshot, start, d, given, .int count, .int batch, expected⟩ got =
      .ok (.int (min (count - got) batch)) := by
  unfold LoadRequest.steps
  rw [Value.minus_int, ok_bind, Value.less_int, ok_bind]
  by_cases hless : count - got < batch
  · simp [hless, min_eq_left hless.le]
  · simp [hless, min_eq_right (Int.not_lt.mp hless)]

/-- The batches of a load search as one walk of all the steps that are left. -/
theorem loop_agrees (h : p.Steady domain snapshot version alike)
    (hversion : version.same version = true) (hpos : 0 < spacing) {count batch : Int}
    (hbatch : 1 ≤ batch) (origin : Value) (expected : Option Value) (start : Int) (maxSteps : Nat)
    {fuel left found : Nat} {loaded : Loaded} (hroom : min (left : Int) batch ≤ Scanner.slotLimit)
    (hfuel : left ≤ fuel) (hleft : loaded.records.length + left = count)
    (hknown : loaded.version = none ∨ loaded.version = some version)
    (hcursor : domain.contains cursor = true) (hst : alike s t) :
    ((Scanner.walkTo ⟨p, domain⟩ ⟨snapshot, start, d, maxSteps, spacing⟩ left found
      (.int cursor)).run s).Agrees alike
        (fun walked after => after.records = loaded.records ++ walked.1 ∧
          (after.version = if left = 0 then loaded.version else some version) ∧
          ∀ record ∈ walked.1, domain.strictlyInside record.tick = true)
        ((LoadRequest.loop ⟨p, domain⟩
          ⟨snapshot, origin, d, .int spacing, .int count, .int batch, expected⟩ fuel (.int cursor)
          loaded).run t) := by
  induction fuel generalizing left found cursor loaded s t with
  | zero =>
    obtain rfl : left = 0 := by omega
    exact Outcome.Agrees.pure hst ⟨(List.append_nil _).symm, rfl, by simp⟩
  | succ fuel ih =>
    unfold LoadRequest.loop
    rw [Value.less_int, Action.lift_ok_bind]
    cases left with
    | zero =>
      have hdone : ¬ (loaded.records.length : Int) < count := by omega
      rw [decide_eq_false hdone, if_neg Bool.false_ne_true]
      exact Outcome.Agrees.pure hst ⟨(List.append_nil _).symm, rfl, by simp⟩
    | succ left =>
      have hmore : (loaded.records.length : Int) < count := by omega
      rw [decide_eq_true hmore, if_pos rfl, LoadRequest.steps_int, Action.lift_ok_bind]
      -- The next batch takes `steps` of the steps that are left, at least one of them.
      have hnonneg : 0 ≤ min (count - loaded.records.length) batch := by omega
      obtain ⟨steps, hsteps⟩ := Int.eq_ofNat_of_zero_le hnonneg
      have hle : steps ≤ left + 1 := by omega
      obtain ⟨rest, hrest⟩ := Nat.exists_eq_add_of_le hle
      have hsome : ¬ steps + rest = 0 := by omega
      rw [hsteps, hrest, Scanner.walkTo_add]
      have hslots : steps ≤ Scanner.slotLimit := by omega
      apply (scan_agrees h hpos hcursor hst start maxSteps hslots found).bind
      rintro walked _ s t ⟨hwalked, rfl⟩ hst
      have hagreed : LoadRequest.agreed loaded.version version = .ok version := by
        rcases hknown with hnone | hsome
        · rw [hnone]
          rfl
        · rw [hsome, LoadRequest.agreed, if_pos hversion]
      have hversion' : (ScanResult.padded steps walked.1 version d).version = version := rfl
      rw [hversion', hagreed, Action.lift_ok_bind, ScanResult.validTicks_padded,
        ScanResult.exhausted_padded _ _ _ _ hwalked.length_le, ScanResult.lastTick?_padded]
      by_cases hshort : walked.1.length < steps
      · rw [if_pos hshort, decide_eq_true hshort]
        exact Outcome.Agrees.pure hst ⟨rfl, (if_neg hsome).symm, hwalked.inside⟩
      · rw [if_neg hshort, decide_eq_false hshort]
        have hfull : walked.1.length = steps := by
          have hmost := hwalked.length_le
          omega
        cases hlast : walked.1.getLast? with
        | none =>
          rw [List.getLast?_eq_none_iff] at hlast
          rw [hlast, List.length_nil] at hfull
          omega
        | some record =>
          have hresume : d.resume cursor walked.1 = d.nextCursor record.tick := by
            rw [Direction.resume, hlast]
          have hnext := hwalked.next
          have hinside := Direction.contains_resume hcursor hwalked.inside d
          rw [hresume] at hnext hinside
          rw [hnext]
          have hroom' : min (rest : Int) batch ≤ Scanner.slotLimit := by omega
          refine (ih hroom' (by omega) ?_ (.inr rfl) hinside hst).bind_left ?_
          · rw [List.length_append]
            push_cast
            omega
          · rintro second after s t ⟨hrecords, hafter, hin⟩ hst
            refine Outcome.Agrees.pure hst ⟨?_, ?_, ?_⟩
            · rw [hrecords, List.append_assoc]
            · rw [hafter, if_neg hsome]
              exact ite_self _
            · exact List.forall_mem_append.mpr ⟨hwalked.inside, hin⟩

lemma LoadRequest.check_int (start given : Value) {count batch : Int} (hcount : 0 ≤ count)
    (hbatch : 1 ≤ batch) (expected : Option Value) :
    LoadRequest.check ⟨snapshot, start, d, given, .int count, .int batch, expected⟩ = .ok () := by
  have hlow : ¬ count < 0 := by omega
  have hnone : ¬ batch ≤ 0 := by omega
  unfold LoadRequest.check
  rw [Value.less_int, ok_bind, decide_eq_false hlow, if_neg Bool.false_ne_true, Value.atMost_int,
    ok_bind, decide_eq_false hnone, if_neg Bool.false_ne_true]

section

variable {start given : Value} {batch : Int} {e : Failure}

/-- A load whose first batch cannot be made ends at once. -/
lemma loop_of_ready_error {count : Nat} (hcount : 1 ≤ count) (hready : RequestForm.ready
      ⟨snapshot, start, .ok d, .int (min count batch), given⟩ domain = .error e)
    (expected : Option Value) :
    LoadRequest.loop ⟨p, domain⟩
      ⟨snapshot, start, d, given, .int count, .int batch, expected⟩ count start
      ⟨[], expected, 0⟩ = Action.lift (.error e) := by
  obtain ⟨fuel, rfl⟩ := Nat.exists_eq_add_of_le' hcount
  have hmore : (([] : List TickRecord).length : Int) < (fuel + 1 : Nat) := by
    rw [List.length_nil]
    omega
  unfold LoadRequest.loop
  rw [Value.less_int, Action.lift_ok_bind, decide_eq_true hmore, if_pos rfl,
    LoadRequest.steps_int, Action.lift_ok_bind, List.length_nil, Nat.cast_zero, Int.sub_zero,
    Scanner.scan_of_ready_error hready, Action.lift_error_bind]

lemma loop_of_read_error {count steps : Nat} {fault : RequestFault}
    (hread : RequestForm.read ⟨snapshot, start, .ok d, .int steps, given⟩ domain = .error fault)
    (hcount : 1 ≤ count) (hbatch : 1 ≤ batch) (expected : Option Value) :
    LoadRequest.loop ⟨p, domain⟩
      ⟨snapshot, start, d, given, .int count, .int batch, expected⟩ count start
      ⟨[], expected, 0⟩ = Action.lift (.error (Failure.request fault).told) := by
  have hnonneg : 0 ≤ min (count : Int) batch := by omega
  obtain ⟨first, hfirst⟩ := Int.eq_ofNat_of_zero_le hnonneg
  apply loop_of_ready_error hcount
  rw [hfirst]
  exact RequestForm.ready_of_read_error (RequestForm.read_error_of_steps hread first)

lemma RequestForm.exists_ready_error {form : RequestForm} {n : Int} (hsteps : form.maxSteps = .int n)
    (hlarge : (Scanner.slotLimit : Int) < n) (domain : KeyDomain) :
    ∃ e, form.ready domain = .error e := by
  cases hready : form.ready domain with
  | error e => exact ⟨e, rfl⟩
  | ok request =>
    obtain ⟨hcheck, hroom⟩ := RequestForm.check_of_ready hready
    obtain ⟨rfl, -, -⟩ := RequestForm.check_eq_ok_iff.mp hcheck
    have hslots : (request.maxSteps : Int) = n := Value.int.inj hsteps
    omega

lemma loadBand_of_ready_error {band : Int} (hband : 1 ≤ band) (hbatch : 1 ≤ batch)
    (hready : RequestForm.ready
      ⟨snapshot, start, .ok .inclusive, .int (min band batch), given⟩ domain = .error e) :
    loadBand ⟨p, domain⟩ ⟨snapshot, start, given, .int band, .int batch⟩ = Action.lift (.error e) := by
  obtain ⟨count, rfl⟩ := Int.eq_ofNat_of_zero_le (Int.le_of_lt hband)
  have hfuel : LoadRequest.fuel ⟨snapshot, start, .inclusive, given, .int count, .int batch, none⟩ =
      count := Int.toNat_natCast count
  have hbelow : loadTicks ⟨p, domain⟩
      ⟨snapshot, start, .inclusive, given, .int count, .int batch, none⟩ = Action.lift (.error e) := by
    unfold loadTicks
    rw [LoadRequest.check_int start given (Int.le_of_lt hband) hbatch, Action.lift_ok_bind, hfuel,
      loop_of_ready_error (Int.ofNat_le.mp hband) hready, Action.lift_error_bind]
  unfold loadBand
  dsimp only
  rw [hbelow, Action.lift_error_bind]

end

/-- A scan with room for any number of slots. -/
def Scanner.roomyScan (s : Scanner σ) (form : RequestForm) : Action σ ScanResult := do
  let request ← Action.lift (form.check s.domain)
  s.follow request

lemma Scanner.scan_eq_roomyScan {form : RequestForm}
    (h : ∀ n : Int, form.maxSteps = .int n → n ≤ slotLimit) :
    scan ⟨p, domain⟩ form = roomyScan ⟨p, domain⟩ form := by
  unfold roomyScan
  cases hcheck : form.check domain with
  | error e =>
    rw [scan, hcheck, Action.lift_error_bind, Action.lift_error_bind]
  | ok request =>
    obtain ⟨rfl, -, -⟩ := RequestForm.check_eq_ok_iff.mp hcheck
    have hroom : request.maxSteps ≤ slotLimit := Int.ofNat_le.mp (h request.maxSteps rfl)
    rw [scan_of_ready (RequestForm.ready_of_le hcheck hroom), Action.lift_ok_bind]

/-- A load whose batches have room for their slots agrees with one scan of as many steps, also when the
version is expected beforehand. -/
theorem loadTicks_agrees (h : p.Steady domain snapshot version alike)
    (hversion : version.same version = true) (hst : alike s t) (start given : Value) (d : Direction)
    {count batch : Int} (hcount : 1 ≤ count) (hroom : min count batch ≤ Scanner.slotLimit)
    (hbatch : 1 ≤ batch) {expected : Option Value} (hknown : expected = none ∨ expected = some version) :
    ((Scanner.roomyScan ⟨p, domain⟩ ⟨snapshot, start, .ok d, .int count, given⟩).run s).Agrees alike
      (fun result loaded => loaded = (result.validTicks, version) ∧ result.version = version ∧
        ∀ record ∈ result.validTicks, domain.strictlyInside record.tick = true)
      ((loadTicks ⟨p, domain⟩
        ⟨snapshot, start, d, given, .int count, .int batch, expected⟩).run t) := by
  obtain ⟨steps, rfl⟩ := Int.eq_ofNat_of_zero_le (Int.le_of_lt hcount)
  unfold loadTicks Scanner.roomyScan
  rw [LoadRequest.check_int start given (Int.le_of_lt hcount) hbatch, Action.lift_ok_bind]
  have hfuel : LoadRequest.fuel ⟨snapshot, start, d, given, .int steps, .int batch, expected⟩ =
      steps := Int.toNat_natCast steps
  rw [hfuel]
  cases hread : RequestForm.read ⟨snapshot, start, .ok d, .int steps, given⟩ domain with
  | error fault =>
    rw [loop_of_read_error hread (Int.ofNat_le.mp hcount) hbatch expected,
      Action.lift_error_bind, RequestForm.check_of_read_error hread, Action.lift_error_bind]
    exact Outcome.Agrees.fail hst _
  | ok request =>
    have hcheck := RequestForm.check_eq_ok_iff_read.mpr hread
    obtain ⟨hform, hpos, hcursor⟩ := RequestForm.check_eq_ok_iff.mp hcheck
    obtain ⟨handle, cursor, direction, maxSteps, spacing⟩ := request
    simp only [ScanRequest.form, RequestForm.mk.injEq, Except.ok.injEq, Value.int.injEq,
      Int.ofNat_inj] at hform hpos hcursor
    obtain ⟨rfl, rfl, rfl, rfl, rfl⟩ := hform
    rw [hcheck, Action.lift_ok_bind, Scanner.follow_eq]
    refine (loop_agrees h hversion hpos hbatch _ _ cursor _ hroom le_rfl (by simp) hknown hcursor
      hst).bind ?_
    rintro walked loaded s t ⟨hrecords, hafter, hin⟩ hst
    have hsome : ¬ steps = 0 := by omega
    rw [if_neg hsome] at hafter
    rw [List.nil_append] at hrecords
    simp only [hafter, hrecords, pure_bind]
    obtain ⟨s', hquiet, hst⟩ := h.version t s (h.symm s t hst)
    apply Outcome.Agrees.quiet_left hquiet
    apply Outcome.Agrees.quiet_left (Action.quiet_log _ _ _ s')
    apply Outcome.Agrees.quiet_right (Action.quiet_log _ _ _ t)
    refine Outcome.Agrees.pure (h.symm t s' hst) ⟨?_, rfl, ?_⟩
    · rw [ScanResult.validTicks_padded]
    · rw [ScanResult.validTicks_padded]
      exact hin

/-- Both sides of a band whose batches have room for their slots agree with one scan each. What is left is
to show the active tick and the version. -/
theorem loadBand_agrees (h : p.Steady domain snapshot version alike)
    (hversion : version.same version = true) (hst : alike s t) (current given : Value)
    {band batch : Int} (hband : 1 ≤ band) (hroom : min band batch ≤ Scanner.slotLimit)
    (hbatch : 1 ≤ batch) :
    ((do
      let below ← Scanner.roomyScan ⟨p, domain⟩ ⟨snapshot, current, .ok .inclusive, .int band, given⟩
      let above ← Scanner.roomyScan ⟨p, domain⟩ ⟨snapshot, current, .ok .exclusive, .int band, given⟩
      let _ ← Action.lift (Text.composed [current, version] "")
      pure (below, above) : Action σ (ScanResult × ScanResult)).run s).Agrees alike
        (fun sides loaded =>
          loaded = ⟨current, sides.1.validTicks, sides.2.validTicks, version⟩)
        ((loadBand ⟨p, domain⟩ ⟨snapshot, current, given, .int band, .int batch⟩).run t) := by
  unfold loadBand
  apply (loadTicks_agrees h hversion hst current given .inclusive hband hroom hbatch (.inl rfl)).bind
  rintro below _ s t ⟨rfl, -, -⟩ hst
  apply (loadTicks_agrees h hversion hst current given .exclusive hband hroom hbatch (.inr rfl)).bind
  rintro above _ s t ⟨rfl, -, -⟩ hst
  dsimp only
  rcases Text.composed_cases [current, version] with ⟨-, htold⟩ | ⟨-, huntold⟩
  · rw [htold, htold, Action.lift_ok_bind, Action.lift_ok_bind]
    apply Outcome.Agrees.quiet_right (Action.quiet_log _ _ _ t)
    exact Outcome.Agrees.pure hst rfl
  · rw [huntold, huntold, Action.lift_error_bind, Action.lift_error_bind]
    exact Outcome.Agrees.fail hst _

lemma loadTicks_of_count_le_zero (scanner : Scanner σ) (snapshot start given : Value) (d : Direction)
    {count batch batch' : Int} (hcount : count ≤ 0) (hbatch : 1 ≤ batch) (hbatch' : 1 ≤ batch')
    (expected : Option Value) :
    loadTicks scanner ⟨snapshot, start, d, given, .int count, .int batch, expected⟩ =
      loadTicks scanner ⟨snapshot, start, d, given, .int count, .int batch', expected⟩ := by
  unfold loadTicks
  by_cases hnegative : count < 0
  · have hcheck (size : Int) :
        LoadRequest.check ⟨snapshot, start, d, given, .int count, .int size, expected⟩ =
          .error (Failure.negativeCount (.int count)).told := by
      unfold LoadRequest.check
      rw [Value.less_int, ok_bind, decide_eq_true hnegative, if_pos rfl]
      rfl
    rw [hcheck, hcheck, Action.lift_error_bind, Action.lift_error_bind]
  · obtain rfl : count = 0 := by omega
    rw [LoadRequest.check_int start given le_rfl hbatch, LoadRequest.check_int start given le_rfl hbatch']
    rfl

/-- Over a steady provider a band is the same for all batch sizes that leave room for the slots. -/
theorem loadBand_of_batches (h : p.Steady domain snapshot version alike)
    (hversion : version.same version = true) (hs : alike s s) (current given : Value) (band : Int)
    {batch batch' : Int} (hbatch : 1 ≤ batch) (hbatch' : 1 ≤ batch')
    (hroom : min band batch ≤ Scanner.slotLimit) (hroom' : min band batch' ≤ Scanner.slotLimit) :
    let one := (loadBand ⟨p, domain⟩ ⟨snapshot, current, given, .int band, .int batch⟩).run s
    let other := (loadBand ⟨p, domain⟩ ⟨snapshot, current, given, .int band, .int batch'⟩).run s
    one.result = other.result ∧ searches one.events = searches other.events := by
  intro one other
  by_cases hband : 1 ≤ band
  · have hone := loadBand_agrees h hversion hs current given hband hroom hbatch
    have hother := loadBand_agrees h hversion hs current given hband hroom' hbatch'
    exact ⟨hone.result.eq_map.trans hother.result.eq_map.symm,
      hone.searches.symm.trans hother.searches⟩
  · have hsame (d : Direction) (expected : Option Value) :=
      loadTicks_of_count_le_zero ⟨p, domain⟩ snapshot current given d (Int.not_lt.mp hband) hbatch
        hbatch' expected
    have hbands : loadBand ⟨p, domain⟩ ⟨snapshot, current, given, .int band, .int batch⟩ =
        loadBand ⟨p, domain⟩ ⟨snapshot, current, given, .int band, .int batch'⟩ := by
      unfold loadBand
      simp only [hsame]
    have hruns : one = other := congrArg (fun load => load.run s) hbands
    rw [hruns]
    exact ⟨rfl, rfl⟩

/-- Over a steady provider batches cannot be told from a single scan, as long as that has room for its
slots. A load makes the same searches as the scan of as many steps and returns its ticks and version, or
fails as the scan does; it can go on after every one of its ticks; and a band is the same for all batch
sizes. -/
theorem loads_read_as_one_scan (h : p.Steady domain snapshot version alike)
    (hversion : version.same version = true) (hs : alike s s) :
    (∀ (start given : Value) (d : Direction) (count batch : Int), 1 ≤ count →
      count ≤ Scanner.slotLimit → 1 ≤ batch →
      let single :=
        (Scanner.scan ⟨p, domain⟩ ⟨snapshot, start, .ok d, .int count, given⟩).run s
      let loaded :=
        (loadTicks ⟨p, domain⟩ ⟨snapshot, start, d, given, .int count, .int batch, none⟩).run s
      loaded.result = single.result.map (fun result => (result.validTicks, result.version)) ∧
        searches loaded.events = searches single.events ∧
        ∀ result, single.result = .ok result → ∀ record ∈ result.validTicks, ∀ steps : Nat,
          ∃ request, RequestForm.check
            ⟨snapshot, .int (d.nextCursor record.tick), .ok d, .int steps, given⟩ domain =
              .ok request) ∧
    ∀ (current given : Value) (band batch batch' : Int), 1 ≤ batch → 1 ≤ batch' →
      min band batch ≤ Scanner.slotLimit → min band batch' ≤ Scanner.slotLimit →
      let one := (loadBand ⟨p, domain⟩ ⟨snapshot, current, given, .int band, .int batch⟩).run s
      let other := (loadBand ⟨p, domain⟩ ⟨snapshot, current, given, .int band, .int batch'⟩).run s
      one.result = other.result ∧ searches one.events = searches other.events := by
  constructor
  · intro start given d count batch hcount hroom hbatch single loaded
    have hagrees := loadTicks_agrees h hversion hs start given d hcount
      ((min_le_left _ _).trans hroom) hbatch (.inl rfl)
    rw [← Scanner.scan_eq_roomyScan (by simp [hroom])] at hagrees
    refine ⟨?_, hagrees.searches.symm, ?_⟩
    · refine (hagrees.imp ?_).result.eq_map
      rintro result _ ⟨rfl, hsame, -⟩
      rw [hsame]
    · intro result hresult record hrecord steps
      obtain ⟨request, hready⟩ := Scanner.exists_ready_of_scan_ok hresult
      have hmatching := hagrees.result
      rw [hresult] at hmatching
      obtain ⟨_, -, -, -, hin⟩ := hmatching.exists_of_ok
      have hcursor := KeyDomain.contains_nextCursor (hin record hrecord) d
      exact RequestForm.exists_check_at (RequestForm.check_of_ready hready).1 hcursor d steps
  · intro current given band batch batch' hbatch hbatch' hroom hroom'
    exact loadBand_of_batches h hversion hs current given band hbatch hbatch' hroom hroom'

/-- A store is steady about every snapshot that it has, since reading leaves it as it is. -/
theorem Store.steady {st : Store} {snap : Snapshot} (hsnap : st.snapshot snapshot = .ok snap)
    (domain : KeyDomain) :
    Store.provider.Steady domain snapshot snap.version (fun s t => s = st ∧ t = st) := by
  refine ⟨?_, ?_, ?_⟩
  · rintro s t ⟨rfl, rfl⟩
    exact ⟨rfl, rfl⟩
  · intro d spacing
    constructor
    · rintro s t cursor ⟨rfl, rfl⟩ -
      cases hfind : t.find snapshot (.int cursor) d (.int spacing) with
      | ok candidate =>
        have hyields := yields_find hfind
        refine ⟨?_, rfl, hyields.state, hyields.state⟩
        rw [hyields.result]
        exact .ok ⟨_, _, rfl, rfl⟩
      | error e =>
        have hfails := fails_find hfind
        refine ⟨?_, rfl, hfails.state, hfails.state⟩
        rw [hfails.result]
        exact .error e
    · rintro s t tick ⟨rfl, rfl⟩ -
      have hyields := yields_fetch hsnap tick
      refine ⟨?_, rfl, hyields.state, hyields.state⟩
      rw [hyields.result]
      exact .ok ⟨_, _, rfl, rfl⟩
  · rintro s t ⟨rfl, rfl⟩
    refine ⟨t, ?_, rfl, rfl⟩
    refine (Action.quiet_note rfl t).bind ((Action.quiet_get t).bind ?_)
    rw [Store.version, hsnap]
    exact Action.quiet_lift snap.version t

/-- Five ticks of a store, loaded by twos and scanned at once. -/
theorem loads_read_as_one_scan_by_twos :
    let c : Commit := ⟨[⟨.int 10, .int 5, .int 5⟩, ⟨.int 20, .int 1, .int 1⟩,
      ⟨.int 30, .int 2, .int (-2)⟩, ⟨.int 40, .int 7, .int 0⟩, ⟨.int 50, .int 3, .int (-3)⟩],
      .int 1, .int 10, .null⟩
    let s := ((Store.commit c).run (.empty ⟨-100, 100⟩ false)).state
    let single := (Scanner.scan ⟨Store.provider, ⟨-100, 100⟩⟩
      ⟨.int 1, .int 0, .ok .exclusive, .int 5, .int 10⟩).run s
    let loaded := (loadTicks ⟨Store.provider, ⟨-100, 100⟩⟩
      ⟨.int 1, .int 0, .exclusive, .int 10, .int 5, .int 2, none⟩).run s
    (Value.int 1).same (.int 1) = true ∧
      loaded.result = single.result.map (fun result => (result.validTicks, result.version)) ∧
        searches loaded.events = searches single.events := by
  intro c s single loaded
  let snap : Snapshot := ⟨.int 1, .int 10, [(0, 62)],
    [(10, ⟨5, 5⟩), (20, ⟨1, 1⟩), (30, ⟨2, -2⟩), (40, ⟨7, 0⟩), (50, ⟨3, -3⟩)],
    [10, 20, 30, 40, 50].mergeSort⟩
  have hsnap : s.snapshot (.int 1) = .ok snap := rfl
  have hversion : snap.version.same snap.version = true := rfl
  obtain ⟨hresult, hsearches, -⟩ := (loads_read_as_one_scan (Store.steady hsnap ⟨-100, 100⟩)
    hversion ⟨rfl, rfl⟩).1 (.int 0) (.int 10) .exclusive 5 2 (by decide) (by decide) (by decide)
  exact ⟨hversion, hresult, hsearches⟩

/-- A version that is not equal to itself is no version to agree on: the second batch reports the same
one and is refused, while a single scan returns. -/
theorem load_refuses_version_unequal_to_itself :
    let version : Value := .float (Float.ofBits 0x7ff8000000000000)
    let script : Script := ⟨[.answer (.list [.bool true, .int 5]), .answer (.list [.bool true, .int 6])],
      [.answer (.list [.int 1, .int 1]), .answer (.list [.int 2, .int 2])],
      [.answer version, .answer version]⟩
    ((Scanner.scan ⟨Script.provider, ⟨-100, 100⟩⟩
        ⟨.null, .int 0, .ok .exclusive, .int 2, .int 1⟩).run script).result =
          .ok ⟨[⟨true, 5, 1, 1⟩, ⟨true, 6, 2, 2⟩], 2, version, .exclusive⟩ ∧
      ((loadTicks ⟨Script.provider, ⟨-100, 100⟩⟩
        ⟨.null, .int 0, .exclusive, .int 1, .int 2, .int 1, none⟩).run script).result =
          .error (.versionChanged version version) := by
  intro version script
  exact ⟨rfl, rfl⟩

end TickWalk
