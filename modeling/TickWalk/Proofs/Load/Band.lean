import TickWalk.Proofs.Load.Batching
import TickWalk.Proofs.Scan.Nearest
import TickWalk.Proofs.Store.History

/-!
# Bands of a store

A band is loaded by two walks that meet at the current tick, each cut into batches. Its two sides are
the first ticks of the two courses from there: they do not overlap, every side is in order, and no
committed tick between the lowest and the highest one is left out.
-/

namespace TickWalk

namespace LooseBand

lemma put_fresh {entries : List (Value × LooseRecord)} {r : LooseRecord}
    (h : ∀ e ∈ entries, e.1.same r.tick = false) : put entries r = entries ++ [(r.tick, r)] := by
  induction entries with
  | nil => rfl
  | cons e rest ih =>
    obtain ⟨tick, q⟩ := e
    rw [List.forall_mem_cons] at h
    rw [put, h.1, if_neg Bool.false_ne_true, ih h.2]
    rfl

lemma foldl_put_fresh {entries : List (Value × LooseRecord)} {more : List LooseRecord}
    (h : more.Pairwise fun q r => q.tick.same r.tick = false)
    (hentries : ∀ e ∈ entries, ∀ r ∈ more, e.1.same r.tick = false) :
    more.foldl put entries = entries ++ more.map fun r => (r.tick, r) := by
  induction more generalizing entries with
  | nil => exact (List.append_nil entries).symm
  | cons r rest ih =>
    have hfresh := put_fresh fun e he => hentries e he r List.mem_cons_self
    rw [List.pairwise_cons] at h
    rw [List.foldl_cons, hfresh, ih h.2, List.append_assoc, List.map_cons, List.singleton_append]
    intro e he q hq
    rcases List.mem_append.mp he with hold | hnew
    · exact hentries e hold q (List.mem_cons_of_mem r hq)
    · rw [List.mem_singleton.mp hnew]
      exact h.1 q hq

end LooseBand

/-- Records in ascending order are initialized under their ticks, each once and in the same order. -/
lemma TickBand.initialized_of_ascending {b : TickBand}
    (h : (b.ticks.map (·.tick)).Pairwise (· < ·)) :
    b.loose.initialized =
      .ok ((b.ticks.filter (·.initialized)).map fun r => (.int r.tick, r.loose)) := by
  have hticks : b.loose.ticks = b.ticks.map TickRecord.loose := by
    unfold LooseBand.ticks ticks
    rw [List.map_append, List.map_reverse]
    rfl
  have hflagged : b.loose.ticks.filter (·.initialized.truthy) =
      (b.ticks.filter (·.initialized)).map TickRecord.loose := by
    rw [hticks, List.filter_map]
    rfl
  have hkeys : ((b.ticks.filter (·.initialized)).map TickRecord.loose).all (·.tick.isKey) = true := by
    rw [List.all_map, List.all_eq_true]
    exact fun _ _ => rfl
  have hdiffer : ((b.ticks.filter (·.initialized)).map TickRecord.loose).Pairwise
      fun q r => q.tick.same r.tick = false := by
    rw [List.pairwise_map] at h ⊢
    refine (h.filter _).imp fun hlt => ?_
    exact (Value.same_int _ _).trans (beq_eq_false_iff_ne.mpr hlt.ne)
  unfold LooseBand.initialized
  simp only [hflagged]
  rw [if_pos hkeys, LooseBand.foldl_put_fresh hdiffer fun e he => absurd he List.not_mem_nil,
    List.nil_append, List.map_map]
  rfl

/-- The ticks of a band are in order and lie on their sides of the current tick, at most `size` of them
on each. No committed tick between the lowest and the highest of them is left out. -/
structure TickBand.Gapless (b : TickBand) (snap : Snapshot) (domain : KeyDomain) (current : Int)
    (size : Nat) : Prop where
  below_le : ∀ r ∈ b.below, r.tick ≤ current
  above_gt : ∀ r ∈ b.above, current < r.tick
  ascending : (b.ticks.map (·.tick)).Pairwise (· < ·)
  below_length : b.below.length ≤ size
  above_length : b.above.length ≤ size
  gapless : ∀ low ∈ b.ticks, ∀ high ∈ b.ticks, ∀ t l, low.tick ≤ t → t ≤ high.tick →
    domain.strictlyInside t = true → snap.liquidity.get? t = some l →
      ⟨true, t, l.gross, l.net⟩ ∈ b.ticks
  /-- The initialized records by tick, one entry each, in ascending order of their keys. -/
  initialized : b.loose.initialized =
      .ok ((b.ticks.filter (·.initialized)).map fun r => (.int r.tick, r.loose)) ∧
    ((b.ticks.filter (·.initialized)).map (·.tick)).Pairwise (· < ·)

namespace Store

/-- What searches of a store answer with: the committed ticks, and inside one word its edge too. -/
def answers (s : Store) (snap : Snapshot) (d : Direction) (spacing : Int) : Int → Bool :=
  if s.withinOneWord then Bitmap.isLandmark d spacing snap.occupied else snap.occupied

/-- The first `size` ticks that a walk from the current tick comes to. -/
def side (s : Store) (snap : Snapshot) (domain : KeyDomain) (spacing current : Int) (size : Nat)
    (d : Direction) : List TickRecord :=
  ((domain.course d (s.answers snap d spacing) current).take size).map snap.recordAt

def band (s : Store) (snap : Snapshot) (domain : KeyDomain) (spacing current : Int) (size : Nat) :
    TickBand :=
  ⟨.int current, s.side snap domain spacing current size .inclusive,
    s.side snap domain spacing current size .exclusive, snap.version⟩

variable {s : Store} {snap : Snapshot} {domain : KeyDomain} {handle : Value}
  {spacing current t : Int} {size : Nat} {d : Direction}

lemma seeks_answers (hs : s.Reachable) {request : ScanRequest}
    (hsnap : s.snapshot request.snapshot = .ok snap) (hpos : 0 < request.spacing)
    (hspacing : (Value.int request.spacing).same snap.spacing = true)
    (hlow : s.domain.minKey ≤ domain.minKey) (hhigh : domain.maxKey ≤ s.domain.maxKey) :
    s.Seeks snap domain request (s.answers snap request.direction request.spacing) := by
  unfold answers
  cases hmode : s.withinOneWord with
  | true => exact seeks_landmarks hs hmode hsnap hpos hspacing domain
  | false =>
    exact seeks_committed hs hmode hsnap hspacing
      (KeyDomain.strictlyInside_bound_of_le hlow hhigh request.direction)

lemma answers_of_occupied (h : snap.Indexed) (hpos : 0 < spacing)
    (hspacing : (Value.int spacing).same snap.spacing = true) (d : Direction)
    (ht : snap.occupied t = true) : s.answers snap d spacing t = true := by
  unfold answers
  split
  · exact h.isLandmark hpos hspacing ht
  · exact ht

lemma map_tick_side : (s.side snap domain spacing current size d).map (·.tick) =
    (domain.course d (s.answers snap d spacing) current).take size := by
  have hid : (fun r : TickRecord => r.tick) ∘ snap.recordAt = id := by
    funext t
    exact snap.recordAt_tick t
  rw [side, List.map_map, hid, List.map_id]

lemma pairwise_side (d : Direction) : ((s.side snap domain spacing current size d).map
    (·.tick)).Pairwise fun a b => d.precedes a b = true := by
  rw [map_tick_side]
  exact (domain.pairwise_course d _ current).take

lemma reaches_of_mem_side (hcurrent : domain.contains current = true) {r : TickRecord}
    (hr : r ∈ s.side snap domain spacing current size d) : d.reaches current r.tick = true := by
  have hmem : r.tick ∈ (s.side snap domain spacing current size d).map (·.tick) :=
    List.mem_map_of_mem hr
  rw [map_tick_side] at hmem
  exact (KeyDomain.of_mem_course hcurrent (List.mem_of_mem_take hmem)).1

lemma length_side_le : (s.side snap domain spacing current size d).length ≤ size := by
  rw [side, List.length_map]
  exact List.length_take_le size _

lemma mem_side (h : snap.Indexed) (hpos : 0 < spacing)
    (hspacing : (Value.int spacing).same snap.spacing = true)
    (hcurrent : domain.contains current = true) {last : TickRecord}
    (hlast : last ∈ s.side snap domain spacing current size d)
    (hreach : d.reaches current t = true) (ht : d.precedes last.tick t = false)
    (hin : domain.strictlyInside t = true) {l : Liquidity} (hl : snap.liquidity.get? t = some l) :
    ⟨true, t, l.gross, l.net⟩ ∈ s.side snap domain spacing current size d := by
  have hocc : snap.occupied t = true := by
    rw [Snapshot.occupied, hl]
    rfl
  have hmem : last.tick ∈ (domain.course d (s.answers snap d spacing) current).take size := by
    rw [← map_tick_side]
    exact List.mem_map_of_mem hlast
  have hrecord : snap.recordAt t = ⟨true, t, l.gross, l.net⟩ := by
    rw [Snapshot.recordAt, hl]
  rw [← hrecord]
  apply List.mem_map_of_mem
  exact KeyDomain.mem_take_course hcurrent hmem hreach ht
    (answers_of_occupied h hpos hspacing d hocc) hin

/-- The two sides of a tick make up a band without a gap. -/
theorem gapless_band (h : snap.Indexed) (hpos : 0 < spacing)
    (hspacing : (Value.int spacing).same snap.spacing = true)
    (hcurrent : domain.contains current = true) (size : Nat) :
    (s.band snap domain spacing current size).Gapless snap domain current size := by
  set b := s.band snap domain spacing current size with hb
  have hbelow : ∀ r ∈ b.below, r.tick ≤ current := fun r hr =>
    of_decide_eq_true (reaches_of_mem_side hcurrent hr)
  have habove : ∀ r ∈ b.above, current < r.tick := fun r hr =>
    of_decide_eq_true (reaches_of_mem_side hcurrent hr)
  have hascending : (b.ticks.map (·.tick)).Pairwise (· < ·) := by
    rw [TickBand.ticks, List.map_append, List.map_reverse, List.pairwise_append]
    refine ⟨?_, ?_, ?_⟩
    · rw [List.pairwise_reverse]
      exact (pairwise_side .inclusive).imp fun hab => of_decide_eq_true hab
    · exact (pairwise_side .exclusive).imp fun hab => of_decide_eq_true hab
    · intro low hlow high hhigh
      obtain ⟨p, hp, rfl⟩ := List.mem_map.mp (List.mem_reverse.mp hlow)
      obtain ⟨q, hq, rfl⟩ := List.mem_map.mp hhigh
      exact (hbelow p hp).trans_lt (habove q hq)
  refine ⟨hbelow, habove, hascending, length_side_le, length_side_le, ?_,
    TickBand.initialized_of_ascending hascending, ?_⟩
  · intro low hlow high hhigh t l hlt hth hin hl
    rw [TickBand.ticks, List.mem_append, List.mem_reverse] at hlow hhigh ⊢
    rcases le_or_gt t current with hle | hgt
    · -- A lowest tick that is not above the current one is on the lower side.
      left
      rcases hlow with hlow | hlow
      · apply mem_side h hpos hspacing hcurrent hlow (decide_eq_true hle) _ hin hl
        exact decide_eq_false (not_lt.mpr hlt)
      · have hover := habove low hlow
        omega
    · right
      rcases hhigh with hhigh | hhigh
      · have hunder := hbelow high hhigh
        omega
      · apply mem_side h hpos hspacing hcurrent hhigh (decide_eq_true hgt) _ hin hl
        exact decide_eq_false (not_lt.mpr hth)
  · rw [List.pairwise_map] at hascending ⊢
    exact hascending.filter _

section Versions

variable {form : RequestForm} {r : LoadRequest}

lemma ensures_scan (hsnap : s.snapshot form.snapshot = .ok snap) :
    (Scanner.scan ⟨provider, domain⟩ form).Ensures s fun result =>
      result.version = snap.version ∧ ∀ n : Int, form.maxSteps = .int n → n ≤ Scanner.slotLimit := by
  rw [Scanner.scan_eq]
  cases hready : form.ready domain with
  | error e =>
    apply Action.ensures_lift
    intro result hresult
    cases hresult
  | ok request =>
    obtain ⟨hcheck, hroom⟩ := RequestForm.check_of_ready hready
    obtain ⟨rfl, hpos, hstart⟩ := RequestForm.check_eq_ok_iff.mp hcheck
    have hwalk : (Scanner.walk ⟨provider, domain⟩ request request.maxSteps 0
        (.int request.start)).Keeps s :=
      Scanner.walk_compositional (Action.keeps_compositional s)
        (reads_keep s domain request.snapshot) hpos _ _ hstart
    rw [Action.lift_ok_bind]
    apply hwalk.bind_ensures
    intro records
    apply (yields_version hsnap).ensures.bind
    intro version hversion
    apply (Action.keeps_log _ _ _ s).bind_ensures
    intro _
    apply Action.ensures_pure
    refine ⟨hversion, fun n hn => ?_⟩
    rw [← Value.int.inj hn]
    exact Int.ofNat_le.mpr hroom

lemma ensures_loop (hsnap : s.snapshot r.snapshot = .ok snap) (fuel : Nat) (cursor : Value)
    (loaded : Loaded) :
    (r.loop ⟨provider, domain⟩ fuel cursor loaded).Ensures s fun after =>
      after.version = loaded.version ∨ after.version = some snap.version := by
  induction fuel generalizing cursor loaded with
  | zero => exact Action.ensures_pure (.inl rfl) s
  | succ fuel ih =>
    unfold LoadRequest.loop
    apply (Action.keeps_lift _ s).bind_ensures
    intro more
    cases more with
    | false => exact Action.ensures_pure (.inl rfl) s
    | true =>
      apply (Action.keeps_lift _ s).bind_ensures
      intro steps
      apply (ensures_scan hsnap).bind
      rintro result ⟨hresult, -⟩
      rw [hresult]
      apply (Action.ensures_lift (fun _ h => LoadRequest.agreed_eq_ok h) s).bind
      intro agreed hagreed
      have hknown : some agreed = loaded.version ∨ some agreed = some snap.version := by
        rcases hagreed with ⟨-, rfl⟩ | ⟨hsome, -⟩
        · exact .inr rfl
        · exact .inl hsome.symm
      dsimp only
      split
      · refine ⟨(ih _ _).state, fun after hafter => ?_⟩
        rcases (ih _ _).answer after hafter with hsame | hsame
        · rw [hsame]
          exact hknown
        · exact .inr hsame
      · apply Action.ensures_pure
        exact hknown

lemma ensures_loop_same (hsnap : s.snapshot r.snapshot = .ok snap) {fuel : Nat} {cursor : Value}
    {loaded : Loaded} {version : Value} {steps : Int} (hversion : loaded.version = some version)
    (hmore : (Value.int loaded.records.length).less r.count = .ok true)
    (hsteps : r.steps loaded.records.length = .ok (.int steps)) :
    (r.loop ⟨provider, domain⟩ (fuel + 1) cursor loaded).Ensures s fun _ =>
      steps ≤ Scanner.slotLimit ∧ snap.version.same version = true := by
  unfold LoadRequest.loop
  rw [hmore, Action.lift_ok_bind, if_pos rfl, hsteps, Action.lift_ok_bind]
  apply (ensures_scan hsnap).bind
  rintro result ⟨hresult, hroom⟩
  rw [hresult, hversion]
  apply (Action.ensures_lift (fun _ h => LoadRequest.agreed_eq_ok h) s).bind
  intro agreed hagreed
  have hsame : snap.version.same version = true := by
    rcases hagreed with ⟨hnone, -⟩ | ⟨hsome, hsame⟩
    · cases hnone
    · rw [Option.some.inj hsome]
      exact hsame
  dsimp only
  split
  · exact (ensures_loop hsnap _ _ _).state.ensures ⟨hroom steps rfl, hsame⟩
  · apply Action.ensures_pure
    exact ⟨hroom steps rfl, hsame⟩

lemma ensures_loadTicks (hsnap : s.snapshot r.snapshot = .ok snap)
    (hexpected : r.expected = none ∨ r.expected = some snap.version) :
    (loadTicks ⟨provider, domain⟩ r).Ensures s fun loaded => loaded.2 = snap.version := by
  unfold loadTicks
  apply (Action.keeps_lift _ s).bind_ensures
  intro _
  apply (ensures_loop hsnap r.fuel r.start ⟨[], r.expected, 0⟩).bind
  intro loaded hloaded
  have hend : ∀ version, version = snap.version → (do
      Action.log .debug LoadRequest.source
        (s!"Loaded {loaded.records.length} {r.direction.name} ticks from {r.start.display} " ++
          s!"in {loaded.batches} batches")
      pure (loaded.records, version) : Action Store _).Ensures s
        fun result => result.2 = snap.version := by
    intro version hversion
    apply (Action.keeps_log _ _ _ s).bind_ensures
    intro _
    apply Action.ensures_pure
    exact hversion
  dsimp only
  split
  · rename_i version hsome
    apply hend
    rcases hexpected with hnone | hexpected
    · rw [hsome, hnone] at hloaded
      rcases hloaded with hloaded | hloaded
      · cases hloaded
      · exact Option.some.inj hloaded
    · rw [hsome, hexpected, or_self] at hloaded
      exact Option.some.inj hloaded
  · exact (yields_version hsnap).ensures.bind hend

lemma ensures_loadTicks_same (hsnap : s.snapshot handle = .ok snap) (start given : Value)
    (d : Direction) {count batch : Int} (hcount : 1 ≤ count) (hbatch : 1 ≤ batch) (version : Value) :
    (loadTicks ⟨provider, domain⟩
      ⟨handle, start, d, given, .int count, .int batch, some version⟩).Ensures s fun _ =>
        min count batch ≤ Scanner.slotLimit ∧ snap.version.same version = true := by
  have hnonneg : 0 ≤ count := by omega
  obtain ⟨fuel, rfl⟩ := Int.eq_ofNat_of_zero_le hnonneg
  obtain ⟨fuel, rfl⟩ := Nat.exists_eq_add_of_le' (Int.ofNat_le.mp hcount)
  have hmore : (Value.int ([] : List TickRecord).length).less (.int (fuel + 1 : Nat)) = .ok true := by
    rw [Value.less_int, List.length_nil]
    exact congrArg Except.ok (decide_eq_true (Int.ofNat_lt.mpr fuel.succ_pos))
  have hsteps : LoadRequest.steps
      ⟨handle, start, d, given, .int (fuel + 1 : Nat), .int batch, some version⟩
        ([] : List TickRecord).length = .ok (.int (min ((fuel + 1 : Nat) : Int) batch)) := by
    rw [LoadRequest.steps_int, List.length_nil, Int.natCast_zero, Int.sub_zero]
  have hloop : (LoadRequest.loop ⟨provider, domain⟩
      ⟨handle, start, d, given, .int (fuel + 1 : Nat), .int batch, some version⟩ (fuel + 1) start
      ⟨[], some version, 0⟩).Ensures s fun _ =>
        min ((fuel + 1 : Nat) : Int) batch ≤ Scanner.slotLimit ∧ snap.version.same version = true :=
    ensures_loop_same hsnap rfl hmore hsteps
  have hload : (loadTicks ⟨provider, domain⟩
      ⟨handle, start, d, given, .int (fuel + 1 : Nat), .int batch, some version⟩).Keeps s :=
    loadTicks_compositional (Action.keeps_compositional s) (reads_keep s domain handle)
  unfold loadTicks at hload ⊢
  rw [LoadRequest.check_int start given hnonneg hbatch, Action.lift_ok_bind] at hload ⊢
  exact hloop.bind_of_keeps hload

/-- A band of any tick shows the tick and the version. Its sides, if they may have ticks, need room for
the slots of their batches and the version to be equal to itself. -/
lemma ensures_loadBand (hsnap : s.snapshot handle = .ok snap) (current given : Value)
    {size batch : Int} (hbatch : 1 ≤ batch) :
    (loadBand ⟨provider, domain⟩ ⟨handle, current, given, .int size, .int batch⟩).Ensures s fun _ =>
      (current.isShort = true ∧ snap.version.isShort = true) ∧
        (1 ≤ size → min size batch ≤ Scanner.slotLimit ∧
          snap.version.same snap.version = true) := by
  unfold loadBand
  apply (ensures_loadTicks hsnap (.inl rfl)).bind
  rintro ⟨below, version⟩ hversion
  obtain rfl : version = snap.version := hversion
  have hupper : (loadTicks ⟨provider, domain⟩
      ⟨handle, current, .exclusive, given, .int size, .int batch, some snap.version⟩).Ensures s
        fun _ => 1 ≤ size → min size batch ≤ Scanner.slotLimit ∧
          snap.version.same snap.version = true := by
    by_cases hsize : 1 ≤ size
    · exact (ensures_loadTicks_same hsnap current given .exclusive hsize hbatch
        snap.version).imp fun _ hsame _ => hsame
    · exact (loadTicks_compositional (Action.keeps_compositional s)
        (reads_keep s domain handle)).ensures fun h => absurd h hsize
  apply hupper.bind
  intro above habove
  apply (Action.ensures_lift (fun _ h => (Text.eq_of_composed h).2) s).bind
  intro line hshort
  rw [List.forall_mem_cons, List.forall_mem_singleton] at hshort
  exact ((Action.keeps_log _ _ _ s).bind fun _ => Action.keeps_pure _ s).ensures ⟨hshort, habove⟩

end Versions

section Loads

variable {batch : Int}

lemma yields_loadTicks_zero (hsnap : s.snapshot handle = .ok snap) (start given : Value)
    (d : Direction) (hbatch : 1 ≤ batch) {expected : Option Value}
    (hexpected : expected = none ∨ expected = some snap.version) :
    (loadTicks ⟨provider, domain⟩ ⟨handle, start, d, given, .int 0, .int batch, expected⟩).Yields s
      ([], snap.version) := by
  unfold loadTicks
  rw [LoadRequest.check_int start given le_rfl hbatch, Action.lift_ok_bind]
  apply (Action.yields_pure (⟨[], expected, 0⟩ : Loaded) s).bind
  rcases hexpected with rfl | rfl
  · apply (yields_version hsnap).bind
    exact (Action.yields_log _ _ _ s).bind (Action.yields_pure _ s)
  · apply (Action.yields_pure snap.version s).bind
    exact (Action.yields_log _ _ _ s).bind (Action.yields_pure _ s)

/-- A load whose batches have room for their slots, and that can agree on the version, returns both sides
if it can show its tick and its version. -/
lemma yields_loadBand (hs : s.Reachable) (hsnap : s.snapshot handle = .ok snap) (hpos : 0 < spacing)
    (hspacing : (Value.int spacing).same snap.spacing = true)
    (hlow : s.domain.minKey ≤ domain.minKey) (hhigh : domain.maxKey ≤ s.domain.maxKey)
    (hcurrent : domain.contains current = true) (hbatch : 1 ≤ batch) (size : Nat)
    (hshort : (Value.int current).isShort = true ∧ snap.version.isShort = true)
    (hsides : size = 0 ∨ min (size : Int) batch ≤ Scanner.slotLimit ∧
      snap.version.same snap.version = true) :
    (loadBand ⟨provider, domain⟩
      ⟨handle, .int current, .int spacing, .int size, .int batch⟩).Yields s
        (s.band snap domain spacing current size) := by
  have htold (text : String) :
      Text.composed [.int current, snap.version] text = .ok text :=
    Text.composed_of_short (List.forall_mem_cons.mpr
      ⟨hshort.1, List.forall_mem_singleton.mpr hshort.2⟩)
  rcases Nat.eq_zero_or_pos size with rfl | hsize
  · unfold loadBand
    apply (yields_loadTicks_zero hsnap _ _ .inclusive hbatch (.inl rfl)).bind
    apply (yields_loadTicks_zero hsnap _ _ .exclusive hbatch (.inr rfl)).bind
    dsimp only
    rw [htold, Action.lift_ok_bind]
    exact (Action.yields_log _ _ _ s).bind (Action.yields_pure _ s)
  · obtain ⟨hroom, hsame⟩ := hsides.resolve_left hsize.ne'
    have hscan (d : Direction) : (Scanner.roomyScan ⟨provider, domain⟩
        ⟨handle, .int current, .ok d, .int size, .int spacing⟩).Yields s
          (ScanResult.padded size (s.side snap domain spacing current size d) snap.version d) := by
      have hcheck : RequestForm.check ⟨handle, .int current, .ok d, .int size, .int spacing⟩ domain =
          .ok ⟨handle, current, d, size, spacing⟩ :=
        RequestForm.check_eq_ok_iff.mpr ⟨rfl, hpos, hcurrent⟩
      rw [Scanner.roomyScan, hcheck, Action.lift_ok_bind]
      exact yields_follow_course hcurrent hsnap (seeks_answers hs hsnap hpos hspacing hlow hhigh)
    have hagrees := loadBand_agrees (Store.steady hsnap domain) hsame ⟨rfl, rfl⟩ (.int current)
      (.int spacing) (Int.ofNat_le.mpr hsize) hroom hbatch
    have hmatching := hagrees.result
    have hsides := (hscan .inclusive).bind (f := fun below => do
      let above ← Scanner.roomyScan ⟨provider, domain⟩
        ⟨handle, .int current, .ok .exclusive, .int size, .int spacing⟩
      let _ ← Action.lift (Text.composed [.int current, snap.version] "")
      pure (below, above)) ((hscan .exclusive).bind (by
        rw [htold, Action.lift_ok_bind]
        exact Action.yields_pure _ s))
    rw [hsides.result] at hmatching
    obtain ⟨b, hb, rfl⟩ := hmatching.exists_of_ok
    refine ⟨?_, hagrees.state.2⟩
    rw [hb, ScanResult.validTicks_padded, ScanResult.validTicks_padded]
    rfl

/-- A band of a store is ordered, disjoint and without a gap. It is loaded whenever its tick and its
version can be shown, its batches have room for their slots and they can agree on the version of the
snapshot, and holds the first ticks of the two walks from the current one. -/
theorem loads_gapless_band (hs : s.Reachable) (hsnap : s.snapshot handle = .ok snap)
    (hspacing : (Value.int spacing).same snap.spacing = true)
    (hlow : s.domain.minKey ≤ domain.minKey) (hhigh : domain.maxKey ≤ s.domain.maxKey)
    (hcurrent : domain.contains current = true) (hbatch : 1 ≤ batch) :
    let load := loadBand ⟨provider, domain⟩
      ⟨handle, .int current, .int spacing, .int size, .int batch⟩
    (load.Yields s (s.band snap domain spacing current size) ↔
        ((Value.int current).isShort = true ∧ snap.version.isShort = true) ∧
          (size = 0 ∨ min (size : Int) batch ≤ Scanner.slotLimit ∧
            snap.version.same snap.version = true)) ∧
      ∀ b, (load.run s).result = .ok b →
        b = s.band snap domain spacing current size ∧ b.Gapless snap domain current size := by
  intro load
  have hpos := hs.spacing_pos hsnap hspacing
  have hreturns : ∀ b, (load.run s).result = .ok b →
      ((Value.int current).isShort = true ∧ snap.version.isShort = true) ∧
        (size = 0 ∨ min (size : Int) batch ≤ Scanner.slotLimit ∧
          snap.version.same snap.version = true) := by
    intro b hb
    obtain ⟨hshort, hsides⟩ := (ensures_loadBand hsnap _ _ hbatch).answer b hb
    refine ⟨hshort, ?_⟩
    rcases Nat.eq_zero_or_pos size with hzero | hsize
    · exact .inl hzero
    · exact .inr (hsides (Int.ofNat_le.mpr hsize))
  have hyields : _ → load.Yields s (s.band snap domain spacing current size) := fun h =>
    yields_loadBand hs hsnap hpos hspacing hlow hhigh hcurrent hbatch size (And.left h) (And.right h)
  refine ⟨⟨fun h => hreturns _ h.result, hyields⟩, fun b hb => ?_⟩
  have hresult := (hyields (hreturns b hb)).result
  obtain rfl : b = s.band snap domain spacing current size := by
    rw [hb] at hresult
    exact Except.ok.inj hresult
  exact ⟨rfl, gapless_band (hs.indexed hsnap) hpos hspacing hcurrent size⟩

/-- A band around a committed tick, one tick a batch, in a domain narrower than that of the store. The
edge of a word is the lowest of its ticks. -/
theorem loads_gapless_band_around_tick :
    let c : Commit := ⟨[⟨.int 10, .int 5, .int 5⟩, ⟨.int (-20), .int 3, .int (-3)⟩,
      ⟨.int 30, .int 2, .int (-2)⟩, ⟨.int 70, .int 1, .int 1⟩], .int 1, .int 10, .null⟩
    let s := ((commit c).run (.empty ⟨-100, 100⟩ true)).state
    let load := loadBand ⟨provider, ⟨-50, 60⟩⟩ ⟨.int 1, .int 10, .int 10, .int 2, .int 1⟩
    s.Reachable ∧ ∃ snap b, s.snapshot (.int 1) = .ok snap ∧ load.Yields s b ∧
      b.ticks = [⟨false, 0, 0, 0⟩, ⟨true, 10, 5, 5⟩, ⟨true, 30, 2, -2⟩] ∧
      b.Gapless snap ⟨-50, 60⟩ 10 2 := by
  intro c s load
  have hs : s.Reachable := .commit (.empty ⟨-100, 100⟩ true) c
  let snap : Snapshot := ⟨.int 1, .int 10, [(0, 138), (-1, 2 ^ 254)],
    [(10, ⟨5, 5⟩), (-20, ⟨3, -3⟩), (30, ⟨2, -2⟩), (70, ⟨1, 1⟩)], [10, -20, 30, 70].mergeSort⟩
  have hsnap : s.snapshot (.int 1) = .ok snap := rfl
  have hlow : s.domain.minKey ≤ KeyDomain.minKey ⟨-50, 60⟩ := by
    change (-100 : Int) ≤ -50
    decide
  have hhigh : KeyDomain.maxKey ⟨-50, 60⟩ ≤ s.domain.maxKey := by
    change (60 : Int) ≤ 100
    decide
  have hspacing : (Value.int 10).same snap.spacing = true := rfl
  have hcurrent : KeyDomain.contains ⟨-50, 60⟩ 10 = true := rfl
  have htold : (Value.int 10).isShort = true ∧ snap.version.isShort = true :=
    ⟨rfl, rfl⟩
  have hsides : 2 = 0 ∨ min ((2 : Nat) : Int) 1 ≤ Scanner.slotLimit ∧
      snap.version.same snap.version = true := .inr ⟨by decide, rfl⟩
  obtain ⟨hloads, hband⟩ :=
    loads_gapless_band hs hsnap hspacing hlow hhigh hcurrent (Int.le_refl 1)
  have hyields := hloads.mpr ⟨htold, hsides⟩
  exact ⟨hs, snap, _, hsnap, hyields, rfl, (hband _ hyields.result).2⟩

end Loads

end Store

end TickWalk
