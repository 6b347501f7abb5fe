import TickWalk.Proofs.Scan.Modes

/-!
# Progress of a scan

The ticks that a scan records are meant to move in its direction, from its start on and strictly
inside its domain. A store that looks for the nearest tick answers with a bound of its own domain when
there is none, and a scan over a wider domain takes that bound for a tick: it records the bound
wherever it started, and again at every further step. In every other case scans progress.
-/

namespace TickWalk

/-- The ticks of the filled slots move in the direction of the scan, the first of them is reached from
the start, none is there twice, and all of them are strictly inside the domain. -/
structure ScanResult.Progresses (r : ScanResult) (domain : KeyDomain) (start : Int) : Prop where
  precedes : ∀ i, ∀ h : i + 1 < r.validTicks.length,
    r.direction.precedes r.validTicks[i].tick r.validTicks[i + 1].tick = true
  reached : ∀ record, r.validTicks.head? = some record →
    r.direction.reaches start record.tick = true
  nodup : (r.validTicks.map (·.tick)).Nodup
  inside : ∀ record ∈ r.validTicks, domain.strictlyInside record.tick = true

variable {domain : KeyDomain} {start : Int} {result : ScanResult}

lemma ScanResult.progresses_of_nil (h : result.validTicks = []) : result.Progresses domain start := by
  constructor <;> simp [h]

theorem ScanResult.progresses_of_course {snap : Snapshot} {P : Int → Bool} {n : Nat}
    (hstart : domain.contains start = true)
    (h : result.validTicks =
      ((domain.course result.direction P start).take n).map snap.recordAt) :
    result.Progresses domain start := by
  set keys := (domain.course result.direction P start).take n with hkeys
  have hticks : result.validTicks.map (·.tick) = keys := by
    rw [h, List.map_map]
    have hid : (TickRecord.tick ∘ snap.recordAt) = id := by
      funext t
      exact snap.recordAt_tick t
    rw [hid, List.map_id]
  have hsorted : (result.validTicks.map (·.tick)).Pairwise fun a b =>
      result.direction.precedes a b = true := by
    rw [hticks]
    exact (domain.pairwise_course result.direction P start).sublist (List.take_sublist n _)
  have hmem : ∀ record ∈ result.validTicks, result.direction.reaches start record.tick = true ∧
      domain.strictlyInside record.tick = true := by
    intro record hrecord
    have htick : record.tick ∈ keys := hticks ▸ List.mem_map_of_mem hrecord
    obtain ⟨hreach, -, hin⟩ := KeyDomain.of_mem_course hstart (List.mem_of_mem_take htick)
    exact ⟨hreach, hin⟩
  refine ⟨?_, ?_, ?_, ?_⟩
  · intro i hi
    rw [List.pairwise_map] at hsorted
    exact List.pairwise_iff_getElem.mp hsorted i (i + 1) (by omega) hi (by omega)
  · intro record hrecord
    exact (hmem record (List.mem_of_mem_head? hrecord)).1
  · exact hsorted.nodup
  · intro record hrecord
    exact (hmem record hrecord).2

namespace Store

variable {s : Store} {handle : Value} {snap : Snapshot} {request : ScanRequest} {d : Direction}

/-- Every scan of a snapshot in some direction progresses. -/
def ScansProgress (s : Store) (handle : Value) (domain : KeyDomain) (d : Direction) : Prop :=
  ∀ form request, form.check domain = .ok request → request.snapshot = handle →
    request.direction = d → ∀ result,
      ((Scanner.scan ⟨provider, domain⟩ form).run s).result = .ok result →
        result.Progresses domain request.start

lemma find_of_spacing_mismatch (hsnap : s.snapshot handle = .ok snap) {spacing : Value}
    (hspacing : spacing.same snap.spacing = false) (cursor : Value) (d : Direction) :
    s.find handle cursor d spacing =
      .error (Failure.spacingMismatch handle snap.spacing spacing).told := by
  unfold find
  rw [hsnap, ok_bind, if_neg (by simp [hspacing])]
  rfl

lemma validTicks_of_spacing_mismatch {form : RequestForm} (hcheck : form.check domain = .ok request)
    (hsnap : s.snapshot request.snapshot = .ok snap)
    (hspacing : (Value.int request.spacing).same snap.spacing = false)
    (hresult : ((Scanner.scan ⟨provider, domain⟩ form).run s).result = .ok result) :
    result.validTicks = [] := by
  cases hsteps : request.maxSteps with
  | zero =>
    have hwalk : (Scanner.walk ⟨provider, domain⟩ request request.maxSteps 0
        (.int request.start)).Yields s [] := by
      rw [hsteps]
      exact Action.yields_pure [] s
    rw [(yields_scan hcheck (Scanner.maxSteps_le_of_scan_ok hcheck hresult) hsnap hwalk).result]
      at hresult
    rw [← Except.ok.inj hresult, ScanResult.validTicks_padded]
  | succ left =>
    have hready := RequestForm.ready_of_le hcheck (Scanner.maxSteps_le_of_scan_ok hcheck hresult)
    have hfails : (Scanner.scan ⟨provider, domain⟩ form).Fails s
        (Failure.spacingMismatch request.snapshot snap.spacing (.int request.spacing)).told := by
      rw [Scanner.scan_of_ready hready, Scanner.follow, hsteps, Scanner.walk_succ]
      refine Action.Fails.bind (Action.Fails.bind ?_ _) _
      exact (fails_find (find_of_spacing_mismatch hsnap hspacing _ _)).bind _
    rw [hfails.result] at hresult
    cases hresult

lemma progresses_of_seeks {form : RequestForm} {P : Int → Bool}
    (hcheck : form.check domain = .ok request) (hsnap : s.snapshot request.snapshot = .ok snap)
    (hseeks : s.Seeks snap domain request P)
    (hresult : ((Scanner.scan ⟨provider, domain⟩ form).run s).result = .ok result) :
    result.Progresses domain request.start := by
  obtain ⟨-, -, hstart⟩ := RequestForm.check_eq_ok_iff.mp hcheck
  have hroom := Scanner.maxSteps_le_of_scan_ok hcheck hresult
  rw [(yields_scan_course hcheck hroom hsnap hseeks).result] at hresult
  rw [← Except.ok.inj hresult]
  exact ScanResult.progresses_of_course hstart (ScanResult.validTicks_padded _ _ _ _)

lemma find_beyond_bound (hs : s.Reachable) (hmode : s.withinOneWord = false)
    (hsnap : s.snapshot handle = .ok snap) {spacing cursor : Int}
    (hspacing : (Value.int spacing).same snap.spacing = true)
    (hcursor : d.reaches cursor (s.domain.bound d) = false) :
    s.find handle (.int cursor) d (.int spacing) = .ok (false, s.domain.bound d) := by
  obtain ⟨flag, t, hfind, ⟨-, hnearest⟩ | ⟨rfl, rfl, -⟩⟩ :=
    find_of_not_withinOneWord hs hmode hsnap hspacing d cursor
  · have hin := hs.contains_of_occupied hsnap hnearest.holds
    have hreach := hnearest.reached
    rw [KeyDomain.contains_iff] at hin
    rw [Bool.eq_false_iff, ne_eq] at hcursor
    cases d with
    | inclusive =>
      simp only [Direction.reaches, decide_eq_true_eq] at hreach hcursor
      simp only [KeyDomain.bound] at hcursor
      omega
    | exclusive =>
      simp only [Direction.reaches, decide_eq_true_eq] at hreach hcursor
      simp only [KeyDomain.bound] at hcursor
      omega
  · exact hfind

/-- Inside a wider domain there is a start from which the bound of the store is not reached. -/
lemma exists_start_beyond {bounds : KeyDomain} (h : domain.strictlyInside (bounds.bound d) = true) :
    ∃ start, domain.contains start = true ∧ d.reaches start (bounds.bound d) = false := by
  rw [KeyDomain.strictlyInside_iff] at h
  cases d with
  | inclusive =>
    refine ⟨bounds.minKey - 1, ?_, ?_⟩
    · rw [KeyDomain.contains_iff]
      simp only [KeyDomain.bound] at h
      omega
    · simp [Direction.reaches, KeyDomain.bound]
  | exclusive =>
    refine ⟨bounds.maxKey, ?_, ?_⟩
    · rw [KeyDomain.contains_iff]
      simp only [KeyDomain.bound] at h
      omega
    · simp [Direction.reaches, KeyDomain.bound]

/-- A walk that has come beyond the bound of the store records that bound at every step, if the domain
holds it strictly inside. -/
theorem yields_walk_beyond (hs : s.Reachable) (hmode : s.withinOneWord = false)
    (hsnap : s.snapshot request.snapshot = .ok snap)
    (hspacing : (Value.int request.spacing).same snap.spacing = true)
    (hinside : domain.strictlyInside (s.domain.bound request.direction) = true)
    (left found : Nat) {cursor : Int}
    (hcursor : request.direction.reaches cursor (s.domain.bound request.direction) = false) :
    (Scanner.walk ⟨provider, domain⟩ request left found (.int cursor)).Yields s
      (List.replicate left ⟨false, s.domain.bound request.direction,
        (snap.recordAt (s.domain.bound request.direction)).gross,
        (snap.recordAt (s.domain.bound request.direction)).net⟩) := by
  induction left generalizing found cursor with
  | zero => exact Action.yields_pure [] s
  | succ left ih =>
    have hfind := find_beyond_bound hs hmode hsnap hspacing hcursor
    have hnext : request.direction.reaches
        (request.direction.nextCursor (s.domain.bound request.direction))
        (s.domain.bound request.direction) = false := by
      rw [Direction.reaches_nextCursor]
      exact Direction.precedes_irrefl _ _
    exact yields_walk_cons hsnap hfind hinside (ih (found + 1) hnext)

lemma not_scansProgress (hs : s.Reachable) (hmode : s.withinOneWord = false)
    (hsnap : s.snapshot handle = .ok snap) {spacing : Int} (hpos : 0 < spacing)
    (hspacing : (Value.int spacing).same snap.spacing = true)
    (hinside : domain.strictlyInside (s.domain.bound d) = true) :
    ¬ s.ScansProgress handle domain d := by
  intro hprogress
  obtain ⟨start, hstart, hbeyond⟩ := exists_start_beyond hinside
  let request : ScanRequest := ⟨handle, start, d, 1, spacing⟩
  have hcheck : request.form.check domain = .ok request :=
    RequestForm.check_eq_ok_iff.mpr ⟨rfl, hpos, hstart⟩
  have hscan := yields_scan hcheck (show 1 ≤ Scanner.slotLimit by decide) hsnap
    (yields_walk_beyond hs hmode hsnap hspacing hinside request.maxSteps 0 hbeyond)
  have hreached := (hprogress request.form request hcheck rfl rfl _ hscan.result).reached
  rw [ScanResult.validTicks_padded] at hreached
  have hreach : d.reaches start (s.domain.bound d) = true := hreached _ List.head?_cons
  exact Bool.false_ne_true (hbeyond.symm.trans hreach)

lemma exists_find (hs : s.Reachable) (hsnap : s.snapshot handle = .ok snap) {spacing : Int}
    (hpos : 0 < spacing) (hspacing : (Value.int spacing).same snap.spacing = true) (d : Direction)
    (cursor : Int) : ∃ flag t, s.find handle (.int cursor) d (.int spacing) = .ok (flag, t) := by
  cases hmode : s.withinOneWord with
  | true =>
    obtain ⟨t, hfind, -⟩ := find_of_withinOneWord hs hmode hsnap hspacing hpos d cursor
    exact ⟨_, t, hfind⟩
  | false =>
    obtain ⟨flag, t, hfind, -⟩ := find_of_not_withinOneWord hs hmode hsnap hspacing d cursor
    exact ⟨flag, t, hfind⟩

lemma exists_yields_walk (hs : s.Reachable) (hsnap : s.snapshot request.snapshot = .ok snap)
    (hpos : 0 < request.spacing) (hspacing : (Value.int request.spacing).same snap.spacing = true)
    (left found : Nat) (cursor : Int) :
    ∃ records, (Scanner.walk ⟨provider, domain⟩ request left found (.int cursor)).Yields s
      records := by
  induction left generalizing found cursor with
  | zero => exact ⟨[], Action.yields_pure [] s⟩
  | succ left ih =>
    obtain ⟨flag, t, hfind⟩ := exists_find hs hsnap hpos hspacing request.direction cursor
    cases hin : domain.strictlyInside t with
    | true =>
      obtain ⟨rest, hrest⟩ := ih (found + 1) (request.direction.nextCursor t)
      exact ⟨_, yields_walk_cons hsnap hfind hin hrest⟩
    | false => exact ⟨[], yields_walk_nil hfind hin left found⟩

/-- Scans of a committed snapshot progress in every case but one: a store that looks for the nearest
tick, seen through a domain that holds the bound of the store strictly inside. They return whenever
they come with the spacing of the snapshot and their slots can be laid out; if there is no such spacing
they record nothing. -/
theorem scans_progress_iff (hs : s.Reachable) (hsnap : s.snapshot handle = .ok snap)
    (domain : KeyDomain) (d : Direction) :
    (∀ form request, form.check domain = .ok request → request.snapshot = handle →
      (Value.int request.spacing).same snap.spacing = true → request.maxSteps ≤ Scanner.slotLimit →
        ∃ result, (Scanner.scan ⟨provider, domain⟩ form).Yields s result) ∧
      (s.ScansProgress handle domain d ↔
        s.withinOneWord = true ∨ domain.strictlyInside (s.domain.bound d) = false ∨
          ∀ spacing : Int, 0 < spacing → (Value.int spacing).same snap.spacing = false) := by
  refine ⟨?_, ?_, ?_⟩
  · intro form request hcheck hhandle hspacing hroom
    subst hhandle
    obtain ⟨-, hpos, -⟩ := RequestForm.check_eq_ok_iff.mp hcheck
    obtain ⟨records, hwalk⟩ :=
      exists_yields_walk hs hsnap hpos hspacing request.maxSteps 0 request.start
    exact ⟨_, yields_scan hcheck hroom hsnap hwalk⟩
  · intro hprogress
    by_contra hcase
    push Not at hcase
    obtain ⟨hmode, hinside, spacing, hpos, hspacing⟩ := hcase
    rw [ne_eq, Bool.not_eq_true] at hmode
    rw [ne_eq, Bool.not_eq_false] at hinside hspacing
    exact not_scansProgress hs hmode hsnap hpos hspacing hinside hprogress
  · intro hcase form request hcheck hhandle hd result hresult
    subst hhandle hd
    obtain ⟨-, hpos, -⟩ := RequestForm.check_eq_ok_iff.mp hcheck
    cases hspacing : (Value.int request.spacing).same snap.spacing with
    | false =>
      exact ScanResult.progresses_of_nil
        (validTicks_of_spacing_mismatch hcheck hsnap hspacing hresult)
    | true =>
      cases hmode : s.withinOneWord with
      | true =>
        exact progresses_of_seeks hcheck hsnap
          (seeks_landmarks hs hmode hsnap hpos hspacing domain) hresult
      | false =>
        have hbound : domain.strictlyInside (s.domain.bound request.direction) = false := by
          rcases hcase with hwords | hbound | hnone
          · exact absurd (hmode.symm.trans hwords) Bool.false_ne_true
          · exact hbound
          · exact absurd ((hnone request.spacing hpos).symm.trans hspacing) Bool.false_ne_true
        exact progresses_of_seeks hcheck hsnap
          (seeks_committed hs hmode hsnap hspacing hbound) hresult

/-- A store over a domain of its own: scans progress inside that domain and not inside a wider one. -/
theorem scans_progress_within_own_domain :
    let c : Commit := ⟨[⟨.int 3, .int 5, .int 5⟩], .int 1, .int 1, .null⟩
    let s := ((commit c).run (.empty ⟨-10, 10⟩ false)).state
    s.Reachable ∧ s.ScansProgress (.int 1) ⟨-10, 10⟩ .inclusive ∧
      ¬ s.ScansProgress (.int 1) ⟨-100, 100⟩ .inclusive := by
  intro c s
  have hs : s.Reachable := .commit (.empty ⟨-10, 10⟩ false) c
  let snap : Snapshot := ⟨.int 1, .int 1, [(0, 2 ^ 3)], [(3, ⟨5, 5⟩)], [3].mergeSort⟩
  have hsnap : s.snapshot (.int 1) = .ok snap := rfl
  refine ⟨hs, ?_, ?_⟩
  · exact (scans_progress_iff hs hsnap ⟨-10, 10⟩ .inclusive).2.mpr (.inr (.inl rfl))
  · intro hprogress
    rcases (scans_progress_iff hs hsnap ⟨-100, 100⟩ .inclusive).2.mp hprogress with
      hwords | hbound | hnone
    · exact Bool.false_ne_true (Eq.trans rfl hwords)
    · exact Bool.false_ne_true (hbound.symm.trans rfl)
    · exact Bool.false_ne_true ((hnone 1 Int.one_pos).symm.trans rfl)

/-- Over a wider domain a scan of an empty snapshot records a bound twice, from a start it is not
reached from. -/
theorem scan_repeats_bound :
    let c : Commit := ⟨[], .int 1, .int 1, .null⟩
    let s := ((commit c).run (.empty ⟨-10, 10⟩ false)).state
    let form : RequestForm := ⟨.int 1, .int (-11), .ok .inclusive, .int 2, .int 1⟩
    ∃ result, (Scanner.scan ⟨provider, ⟨-100, 100⟩⟩ form).Yields s result ∧
      result.validTicks = [⟨false, -10, 0, 0⟩, ⟨false, -10, 0, 0⟩] ∧
      ¬ result.Progresses ⟨-100, 100⟩ (-11) := by
  intro c s form
  have hs : s.Reachable := .commit (.empty ⟨-10, 10⟩ false) c
  let request : ScanRequest := ⟨.int 1, -11, .inclusive, 2, 1⟩
  have hsnap : s.snapshot request.snapshot = .ok ⟨.int 1, .int 1, [], [], [].mergeSort⟩ := rfl
  have hcheck : form.check ⟨-100, 100⟩ = .ok request := rfl
  have hscan := yields_scan hcheck (show 2 ≤ Scanner.slotLimit by decide) hsnap
    (yields_walk_beyond hs rfl hsnap rfl rfl request.maxSteps 0 rfl)
  refine ⟨_, hscan, ?_, ?_⟩
  · rw [ScanResult.validTicks_padded]
    rfl
  · intro hprogress
    have hnodup := hprogress.nodup
    rw [ScanResult.validTicks_padded] at hnodup
    revert hnodup
    decide

end Store

end TickWalk
