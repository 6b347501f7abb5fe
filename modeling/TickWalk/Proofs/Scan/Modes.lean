import TickWalk.Proofs.Scan.Landmarks

/-!
# The two search modes

Two stores over the same ticks, one searching word by word and one looking for the nearest tick, give
the same committed ticks to a scan. The first one also records word edges, which is what its steps
may be used up by, and what may stop it at once when the scan starts at the upper bound.
-/

namespace TickWalk

/-- The committed ticks that a scan from `start` can record. -/
def Snapshot.committed (snap : Snapshot) (domain : KeyDomain) (d : Direction) (start : Int) :
    List Int :=
  domain.course d snap.occupied start

variable {snap : Snapshot} {domain : KeyDomain} {d : Direction} {spacing start : Int}

lemma Bitmap.isLandmark_of_occupied {occupied : Int → Bool} {t : Int} (haligned : t % spacing = 0)
    (ht : occupied t = true) : Bitmap.isLandmark d spacing occupied t = true := by
  simp [isLandmark, haligned, ht]

lemma Snapshot.Indexed.isLandmark (h : snap.Indexed) (hpos : 0 < spacing)
    (hspacing : (Value.int spacing).same snap.spacing = true) {t : Int}
    (ht : snap.occupied t = true) : Bitmap.isLandmark d spacing snap.occupied t = true :=
  Bitmap.isLandmark_of_occupied (h.aligned spacing hpos hspacing t ht) ht

/-- Whether a scan stops at an edge of a word before it has looked at any tick: only a search downwards
does so, from the upper bound of the domain. -/
def Snapshot.StopsAtEdge (snap : Snapshot) (domain : KeyDomain) (d : Direction)
    (spacing start : Int) : Prop :=
  domain.StopsAt d (Bitmap.isLandmark d spacing snap.occupied) start ∧ snap.occupied start = false

/-- The committed ticks among the landmarks ahead of a start are the committed ticks ahead of it. -/
theorem filter_landmarks (h : snap.Indexed) (hpos : 0 < spacing)
    (hspacing : (Value.int spacing).same snap.spacing = true)
    (hstart : domain.contains start = true) (hedge : ¬ snap.StopsAtEdge domain d spacing start) :
    (snap.landmarks domain d spacing start).filter snap.occupied =
      snap.committed domain d start := by
  unfold Snapshot.landmarks Snapshot.committed
  by_cases hstop : domain.StopsAt d (Bitmap.isLandmark d spacing snap.occupied) start
  · have hocc : snap.occupied start = true := by
      by_contra hfree
      exact hedge ⟨hstop, by simpa using hfree⟩
    have hstop' : domain.StopsAt d snap.occupied start := ⟨hstop.1, hstop.2.1, hocc⟩
    rw [KeyDomain.course_of_stopsAt hstart hstop, KeyDomain.course_of_stopsAt hstart hstop',
      List.filter_nil]
  · have hstop' : ¬ domain.StopsAt d snap.occupied start := by
      intro hs
      exact hstop ⟨hs.1, hs.2.1, h.isLandmark hpos hspacing hs.2.2⟩
    -- Both lists are in the order of the scan, so that it is enough to compare their members.
    refine List.Pairwise.eq_of_mem_iff ((domain.pairwise_course d _ start).filter snap.occupied)
      (domain.pairwise_course d snap.occupied start) ?_
    intro t
    rw [List.mem_filter, KeyDomain.mem_course hstart hstop, KeyDomain.mem_course hstart hstop']
    constructor
    · rintro ⟨⟨hreach, -, hin⟩, hocc⟩
      exact ⟨hreach, hocc, hin⟩
    · rintro ⟨hreach, hocc, hin⟩
      exact ⟨⟨hreach, h.isLandmark hpos hspacing hocc, hin⟩, hocc⟩

/-- From any start the landmarks ahead hold only committed ticks that are ahead in their own right. -/
theorem filter_take_landmarks (h : snap.Indexed) (hpos : 0 < spacing)
    (hspacing : (Value.int spacing).same snap.spacing = true)
    (hstart : domain.contains start = true) (n : Nat) :
    ((snap.landmarks domain d spacing start).take n).filter snap.occupied <+:
      (snap.committed domain d start).take n := by
  by_cases hedge : snap.StopsAtEdge domain d spacing start
  · have hnil : snap.landmarks domain d spacing start = [] :=
      KeyDomain.course_of_stopsAt hstart hedge.1
    rw [hnil, List.take_nil, List.filter_nil]
    exact List.nil_prefix
  · rw [List.prefix_take_iff]
    constructor
    · rw [← filter_landmarks h hpos hspacing hstart hedge]
      exact (List.take_prefix n _).filter snap.occupied
    · exact (List.length_filter_le _ _).trans (List.length_take_le n _)

lemma filter_map_recordAt (snap : Snapshot) (keys : List Int) :
    (keys.map snap.recordAt).filter (·.initialized) =
      (keys.filter snap.occupied).map snap.recordAt := by
  rw [List.filter_map]
  congr 2
  funext t
  exact snap.recordAt_initialized t

lemma length_lt_of_exhausted {keys : List Int} {n : Nat} {version : Value}
    (h : (ScanResult.padded n ((keys.take n).map snap.recordAt) version d).exhausted = true) :
    keys.length < n := by
  have hlength : ((keys.take n).map snap.recordAt).length = min n keys.length := by
    rw [List.length_map, List.length_take]
  have hle : ((keys.take n).map snap.recordAt).length ≤ n := by omega
  rw [ScanResult.exhausted_padded _ _ _ _ hle, decide_eq_true_eq, hlength] at h
  omega

namespace Store

variable {s bitmap nearest : Store} {a b : Snapshot} {request : ScanRequest} {form : RequestForm}

lemma seeks_committed (hs : s.Reachable) (hmode : s.withinOneWord = false)
    (hsnap : s.snapshot request.snapshot = .ok snap)
    (hspacing : (Value.int request.spacing).same snap.spacing = true)
    (hbound : domain.strictlyInside (s.domain.bound request.direction) = false) :
    s.Seeks snap domain request snap.occupied := by
  intro cursor
  obtain ⟨flag, t, hfind, ⟨rfl, hnearest⟩ | ⟨rfl, rfl, hnone⟩⟩ :=
    find_of_not_withinOneWord hs hmode hsnap hspacing request.direction cursor
  · exact ⟨true, t, hfind, .inl ⟨hnearest.holds.symm, hnearest⟩⟩
  · exact ⟨false, _, hfind, .inr ⟨hbound, hnone⟩⟩

lemma recordAt_congr (h : ∀ t, a.liquidity.get? t = b.liquidity.get? t) :
    a.recordAt = b.recordAt := by
  funext t
  unfold Snapshot.recordAt
  rw [h t]

lemma occupied_congr (h : ∀ t, a.liquidity.get? t = b.liquidity.get? t) :
    a.occupied = b.occupied := by
  funext t
  unfold Snapshot.occupied
  rw [h t]

/-- Both scans return when their slots can be laid out. The committed ticks that the scan through the
bitmap records are the first ones of those that the scan for the nearest ticks records. If it was exhausted
they are all of them, unless it stopped at an edge, and no committed tick ahead is missing from it, unless
it stopped where it started. -/
theorem scan_modes_agree (hbitmap : bitmap.Reachable) (hwords : bitmap.withinOneWord = true)
    (hnearest : nearest.Reachable) (hticks : nearest.withinOneWord = false)
    (hdomain : nearest.domain = domain) (hcheck : form.check domain = .ok request)
    (hroom : request.maxSteps ≤ Scanner.slotLimit)
    (ha : bitmap.snapshot request.snapshot = .ok a) (hb : nearest.snapshot request.snapshot = .ok b)
    (hsame : ∀ t, a.liquidity.get? t = b.liquidity.get? t)
    (hspacinga : (Value.int request.spacing).same a.spacing = true)
    (hspacingb : (Value.int request.spacing).same b.spacing = true) :
    ∃ walked jumped,
      (Scanner.scan ⟨provider, domain⟩ form).Yields bitmap walked ∧
      (Scanner.scan ⟨provider, domain⟩ form).Yields nearest jumped ∧
      walked.validTicks.filter (·.initialized) <+: jumped.validTicks ∧
      (walked.exhausted = true →
        ¬ a.StopsAtEdge domain request.direction request.spacing request.start →
          walked.validTicks.filter (·.initialized) = jumped.validTicks) ∧
      (walked.exhausted = true →
        ¬ domain.StopsAt request.direction
            (Bitmap.isLandmark request.direction request.spacing a.occupied) request.start →
          ∀ t, a.occupied t = true → request.direction.reaches request.start t = true →
            domain.strictlyInside t = true → a.recordAt t ∈ walked.validTicks) ∧
      (domain.StopsAt request.direction
          (Bitmap.isLandmark request.direction request.spacing a.occupied) request.start →
        walked.validTicks = []) := by
  obtain ⟨-, hpos, hstart⟩ := RequestForm.check_eq_ok_iff.mp hcheck
  have hindexed := hbitmap.indexed ha
  have hbound : domain.strictlyInside (nearest.domain.bound request.direction) = false := by
    rw [hdomain]
    exact domain.strictlyInside_bound request.direction
  have hwalked := yields_scan_course hcheck hroom ha
    (seeks_landmarks hbitmap hwords ha hpos hspacinga domain)
  have hjumped := yields_scan_course hcheck hroom hb
    (seeks_committed hnearest hticks hb hspacingb hbound)
  rw [← recordAt_congr hsame, ← occupied_congr hsame] at hjumped
  set keys := a.landmarks domain request.direction request.spacing request.start with hkeys
  refine ⟨_, _, hwalked, hjumped, ?_, ?_, ?_, ?_⟩
  · rw [ScanResult.validTicks_padded, ScanResult.validTicks_padded, filter_map_recordAt]
    exact (filter_take_landmarks hindexed hpos hspacinga hstart request.maxSteps).map a.recordAt
  · intro hexhausted hedge
    have hlength : keys.length < request.maxSteps := length_lt_of_exhausted hexhausted
    have hall := filter_landmarks hindexed hpos hspacinga hstart hedge
    have hshort : (a.committed domain request.direction request.start).length ≤ keys.length := by
      rw [← hall]
      exact List.length_filter_le a.occupied keys
    rw [ScanResult.validTicks_padded, ScanResult.validTicks_padded, filter_map_recordAt]
    change ((keys.take request.maxSteps).filter a.occupied).map a.recordAt =
      ((a.committed domain request.direction request.start).take request.maxSteps).map a.recordAt
    rw [List.take_of_length_le hlength.le, hall, List.take_of_length_le (hshort.trans hlength.le)]
  · intro hexhausted hstop t hocc hreach hin
    have hlength : keys.length < request.maxSteps := length_lt_of_exhausted hexhausted
    have hmem : t ∈ keys := (KeyDomain.mem_course hstart hstop).mpr
      ⟨hreach, hindexed.isLandmark hpos hspacinga hocc, hin⟩
    rw [ScanResult.validTicks_padded]
    change a.recordAt t ∈ (keys.take request.maxSteps).map a.recordAt
    rw [List.take_of_length_le hlength.le]
    exact List.mem_map_of_mem hmem
  · intro hstop
    rw [ScanResult.validTicks_padded, KeyDomain.course_of_stopsAt hstart hstop, List.take_nil,
      List.map_nil]

/-- Two committed ticks with a word edge between them, seen by a scan with steps left over. -/
theorem scan_modes_agree_around_edge :
    let c : Commit := ⟨[⟨.int 10, .int 5, .int 5⟩, ⟨.int (-20), .int 3, .int (-3)⟩], .int 1, .int 10,
      .null⟩
    let bitmap := ((commit c).run (.empty ⟨-1000, 1000⟩ true)).state
    let nearest := ((commit c).run (.empty ⟨-1000, 1000⟩ false)).state
    let form : RequestForm := ⟨.int 1, .int 1000, .ok .inclusive, .int 4, .int 10⟩
    bitmap.Reachable ∧ nearest.Reachable ∧ ∃ walked jumped,
      (Scanner.scan ⟨provider, ⟨-1000, 1000⟩⟩ form).Yields bitmap walked ∧
      (Scanner.scan ⟨provider, ⟨-1000, 1000⟩⟩ form).Yields nearest jumped ∧
      walked.validTicks.filter (·.initialized) <+: jumped.validTicks ∧
      (walked.exhausted = true →
        walked.validTicks.filter (·.initialized) = jumped.validTicks) := by
  intro c bitmap nearest form
  have hbitmap : bitmap.Reachable := .commit (.empty ⟨-1000, 1000⟩ true) c
  have hnearest : nearest.Reachable := .commit (.empty ⟨-1000, 1000⟩ false) c
  let snap : Snapshot := ⟨.int 1, .int 10, [(0, 2 ^ 1), (-1, 2 ^ 254)],
    [(10, ⟨5, 5⟩), (-20, ⟨3, -3⟩)], [10, -20].mergeSort⟩
  have hcheck : form.check ⟨-1000, 1000⟩ = .ok ⟨.int 1, 1000, .inclusive, 4, 10⟩ := rfl
  have ha : bitmap.snapshot (.int 1) = .ok snap := rfl
  have hb : nearest.snapshot (.int 1) = .ok snap := rfl
  obtain ⟨walked, jumped, hwalked, hjumped, hprefix, hall, -, -⟩ :=
    scan_modes_agree hbitmap rfl hnearest rfl rfl hcheck (by decide) ha hb (fun _ => rfl)
      rfl rfl
  refine ⟨hbitmap, hnearest, walked, jumped, hwalked, hjumped, hprefix, fun hexhausted => ?_⟩
  apply hall hexhausted
  rintro ⟨⟨-, -, hlandmark⟩, -⟩
  have hno : Bitmap.isLandmark .inclusive 10 snap.occupied 1000 = false := rfl
  exact Bool.false_ne_true (hno.symm.trans hlandmark)

/-- A scan down from a word edge on the upper bound is exhausted at once, with a tick still ahead that
the other mode records. -/
theorem scan_stops_at_edge :
    let c : Commit := ⟨[⟨.int (-10), .int 5, .int 5⟩], .int 1, .int 1, .null⟩
    let bitmap := ((commit c).run (.empty ⟨-20, 0⟩ true)).state
    let nearest := ((commit c).run (.empty ⟨-20, 0⟩ false)).state
    let form : RequestForm := ⟨.int 1, .int 0, .ok .inclusive, .int 1, .int 1⟩
    ∃ walked jumped,
      (Scanner.scan ⟨provider, ⟨-20, 0⟩⟩ form).Yields bitmap walked ∧
      (Scanner.scan ⟨provider, ⟨-20, 0⟩⟩ form).Yields nearest jumped ∧
      walked.exhausted = true ∧ walked.validTicks = [] ∧
      jumped.validTicks = [⟨true, -10, 5, 5⟩] := by
  intro c bitmap nearest form
  have hbitmap : bitmap.Reachable := .commit (.empty ⟨-20, 0⟩ true) c
  have hnearest : nearest.Reachable := .commit (.empty ⟨-20, 0⟩ false) c
  let snap : Snapshot := ⟨.int 1, .int 1, [(-1, 2 ^ 246)], [(-10, ⟨5, 5⟩)], [-10].mergeSort⟩
  have hcheck : form.check ⟨-20, 0⟩ = .ok ⟨.int 1, 0, .inclusive, 1, 1⟩ := rfl
  have ha : bitmap.snapshot (.int 1) = .ok snap := rfl
  have hb : nearest.snapshot (.int 1) = .ok snap := rfl
  have hroom : 1 ≤ Scanner.slotLimit := by decide
  have hwalked := yields_scan_course hcheck hroom ha
    (seeks_landmarks hbitmap rfl ha Int.one_pos rfl ⟨-20, 0⟩)
  have hjumped := yields_scan_course hcheck hroom hb (seeks_committed hnearest rfl hb rfl rfl)
  exact ⟨_, _, hwalked, hjumped, rfl, rfl, rfl⟩

end Store

end TickWalk
