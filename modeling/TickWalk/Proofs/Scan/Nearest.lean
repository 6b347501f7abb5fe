import TickWalk.Proofs.Scan.Modes

/-!
# Scans for the nearest tick

Outside its default mode a store jumps from one committed tick to the next. A scan over a domain
inside the store's own then records the committed ticks in its direction and nothing else. The bound
that the store answers with when no tick is left is strictly inside no such domain.
-/

namespace TickWalk

/-- All committed ticks that a scan from `start` is to come to, in the order in which it does. -/
def Snapshot.inScanOrder (snap : Snapshot) (d : Direction) (start : Int) : List Int :=
  match d with
  | .inclusive => (snap.sortedTicks.filter (· ≤ start)).reverse
  | .exclusive => snap.sortedTicks.filter (start < ·)

section ScanOrder

variable {snap : Snapshot} {domain : KeyDomain} {d : Direction} {start t : Int}

lemma Snapshot.Indexed.mem_inScanOrder (h : snap.Indexed) :
    t ∈ snap.inScanOrder d start ↔ d.reaches start t = true ∧ snap.occupied t = true := by
  rw [← h.mem_sorted, and_comm]
  cases d with
  | inclusive => rw [inScanOrder, List.mem_reverse, List.mem_filter, Direction.reaches]
  | exclusive => rw [inScanOrder, List.mem_filter, Direction.reaches]

lemma Snapshot.Indexed.pairwise_inScanOrder (h : snap.Indexed) (d : Direction) (start : Int) :
    (snap.inScanOrder d start).Pairwise fun a b => d.precedes a b = true := by
  cases d with
  | inclusive =>
    rw [inScanOrder, List.pairwise_reverse]
    exact (h.sorted.filter _).imp fun hab => decide_eq_true hab
  | exclusive =>
    rw [inScanOrder]
    exact (h.sorted.filter _).imp fun hab => decide_eq_true hab

/-- The committed ticks that a scan can record are the first ones in its order, up to the first that is
not strictly inside the domain. -/
theorem takeWhile_inScanOrder (h : snap.Indexed) (hstart : domain.contains start = true) :
    (snap.inScanOrder d start).takeWhile domain.strictlyInside = snap.committed domain d start := by
  have hin : (snap.inScanOrder d start).filter domain.contains =
      (domain.ahead d start).filter snap.occupied := by
    refine List.Pairwise.eq_of_mem_iff ((h.pairwise_inScanOrder d start).filter domain.contains)
      ((domain.pairwise_ahead d start).filter snap.occupied) fun t => ?_
    rw [List.mem_filter, List.mem_filter, h.mem_inScanOrder, KeyDomain.mem_ahead hstart,
      and_right_comm]
  -- A scan that has left the domain does not come back to it.
  have hleft : (snap.inScanOrder d start).Pairwise fun a b =>
      domain.contains b = true → domain.contains a = true := by
    refine List.Pairwise.imp_of_mem ?_ (h.pairwise_inScanOrder d start)
    intro a b ha hb hab hbin
    have hreach := (h.mem_inScanOrder.mp ha).1
    rw [KeyDomain.contains_iff] at hstart hbin ⊢
    cases d <;> simp only [Direction.reaches, Direction.precedes, decide_eq_true_eq] at hreach hab <;>
      omega
  have hinside : (fun t => decide (domain.strictlyInside t = true ∧ domain.contains t = true)) =
      domain.strictlyInside := by
    funext t
    rw [Bool.eq_iff_iff, decide_eq_true_eq]
    exact and_iff_left_of_imp KeyDomain.contains_of_strictlyInside
  unfold Snapshot.committed KeyDomain.course
  rw [← hin, ← takeWhile_eq_filter hleft, List.takeWhile_takeWhile, hinside]

end ScanOrder

lemma KeyDomain.strictlyInside_bound_of_le {inner outer : KeyDomain}
    (hlow : outer.minKey ≤ inner.minKey) (hhigh : inner.maxKey ≤ outer.maxKey) (d : Direction) :
    inner.strictlyInside (outer.bound d) = false := by
  rw [Bool.eq_false_iff, ne_eq, strictlyInside_iff]
  cases d with
  | inclusive =>
    simp only [bound]
    omega
  | exclusive =>
    simp only [bound]
    omega

namespace Store

variable {s : Store} {snap : Snapshot} {domain : KeyDomain} {request : ScanRequest}
  {form : RequestForm}

/-- A scan for the nearest ticks returns exactly when its slots can be laid out, and otherwise fails
before it reads anything. It records the committed ticks in the order of the scan, as far as they are
strictly inside its domain and its steps allow, each flagged and with the liquidity it was committed
with, and never a bound of the store. -/
theorem scan_records_committed (hs : s.Reachable) (hmode : s.withinOneWord = false)
    (hlow : s.domain.minKey ≤ domain.minKey) (hhigh : domain.maxKey ≤ s.domain.maxKey)
    (hcheck : form.check domain = .ok request) (hsnap : s.snapshot request.snapshot = .ok snap)
    (hspacing : (Value.int request.spacing).same snap.spacing = true) :
    (request.maxSteps ≤ Scanner.slotLimit ↔
      ∃ result, (Scanner.scan ⟨provider, domain⟩ form).Yields s result ∧
        result.validTicks =
          (((snap.inScanOrder request.direction request.start).takeWhile domain.strictlyInside).take
            request.maxSteps).map snap.recordAt ∧
        ∀ record ∈ result.validTicks, record.initialized = true ∧
          snap.liquidity.get? record.tick = some ⟨record.gross, record.net⟩ ∧
          ∀ d, record.tick ≠ s.domain.bound d) ∧
      (Scanner.slotLimit < request.maxSteps →
        (Scanner.scan ⟨provider, domain⟩ form).run s =
          ⟨.error (Scanner.noRoom request.maxSteps), s, []⟩) := by
  have hstart := (RequestForm.check_eq_ok_iff.mp hcheck).2.2
  have hbound := KeyDomain.strictlyInside_bound_of_le hlow hhigh
  refine ⟨⟨fun hroom => ?_, ?_⟩, fun hlarge => Scanner.scan_of_lt hcheck hlarge s⟩
  swap
  · rintro ⟨result, hyields, -⟩
    exact Scanner.maxSteps_le_of_scan_ok hcheck hyields.result
  refine ⟨_, yields_scan_course hcheck hroom hsnap
    (seeks_committed hs hmode hsnap hspacing (hbound request.direction)), ?_, ?_⟩
  · rw [ScanResult.validTicks_padded, takeWhile_inScanOrder (hs.indexed hsnap) hstart]
    rfl
  · rw [ScanResult.validTicks_padded]
    intro record hrecord
    obtain ⟨t, ht, rfl⟩ := List.mem_map.mp hrecord
    obtain ⟨-, hocc, hin⟩ := KeyDomain.of_mem_course hstart (List.mem_of_mem_take ht)
    refine ⟨(snap.recordAt_initialized t).trans hocc, ?_, fun d heq => ?_⟩
    · obtain ⟨l, hl⟩ := Option.isSome_iff_exists.mp hocc
      rw [snap.recordAt_tick, hl, Snapshot.recordAt, hl]
    · rw [snap.recordAt_tick] at heq
      rw [heq, hbound d] at hin
      cases hin

/-- Neighbouring ticks below a start in a domain narrower than the store's, whose lower bound is a
committed tick: the scan stops there, with two more ticks of the store below. -/
theorem scan_records_committed_neighbours :
    let c : Commit := ⟨[⟨.int 4, .int 1, .int 1⟩, ⟨.int 5, .int 2, .int (-2)⟩, ⟨.int (-10), .int 3, .int 0⟩,
      ⟨.int (-40), .int 7, .int 7⟩, ⟨.int 6, .int 8, .int 8⟩], .int 1, .int 1, .null⟩
    let s := ((commit c).run (.empty ⟨-100, 100⟩ false)).state
    let form : RequestForm := ⟨.int 1, .int 5, .ok .inclusive, .int 6, .int 1⟩
    s.Reachable ∧ s.withinOneWord = false ∧ s.domain = ⟨-100, 100⟩ ∧
      ∃ result, (Scanner.scan ⟨provider, ⟨-10, 20⟩⟩ form).Yields s result ∧
        result.validTicks = [⟨true, 5, 2, -2⟩, ⟨true, 4, 1, 1⟩] := by
  intro c s form
  have hs : s.Reachable := .commit (.empty ⟨-100, 100⟩ false) c
  let snap : Snapshot := ⟨.int 1, .int 1, [(0, 112), (-1, 2 ^ 246 + 2 ^ 216)],
    [(4, ⟨1, 1⟩), (5, ⟨2, -2⟩), (-10, ⟨3, 0⟩), (-40, ⟨7, 7⟩), (6, ⟨8, 8⟩)],
    [4, 5, -10, -40, 6].mergeSort⟩
  have hcheck : form.check ⟨-10, 20⟩ = .ok ⟨.int 1, 5, .inclusive, 6, 1⟩ := rfl
  have hsnap : s.snapshot (.int 1) = .ok snap := rfl
  have hlow : s.domain.minKey ≤ KeyDomain.minKey ⟨-10, 20⟩ := by
    change (-100 : Int) ≤ -10
    decide
  have hhigh : KeyDomain.maxKey ⟨-10, 20⟩ ≤ s.domain.maxKey := by
    change (20 : Int) ≤ 100
    decide
  obtain ⟨result, hyields, hvalid, -⟩ :=
    (scan_records_committed hs rfl hlow hhigh hcheck hsnap rfl).1.mp (by decide)
  refine ⟨hs, rfl, rfl, result, hyields, ?_⟩
  rw [hvalid, takeWhile_inScanOrder (hs.indexed hsnap) rfl]
  rfl

/-- A request for more slots than an index can count passes its check, and its scan fails. -/
theorem nearest_scan_fails_without_slots :
    let c : Commit := ⟨[⟨.int 3, .int 5, .int 5⟩], .int 1, .int 1, .null⟩
    let s := ((commit c).run (.empty ⟨-10, 10⟩ false)).state
    let request : ScanRequest := ⟨.int 1, 0, .exclusive, 9223372036854775808, 1⟩
    s.Reachable ∧ request.form.check ⟨-10, 10⟩ = .ok request ∧
      (Scanner.scan ⟨provider, ⟨-10, 10⟩⟩ request.form).run s = ⟨.error .notIndex, s, []⟩ ∧
      ∀ result, ¬ (Scanner.scan ⟨provider, ⟨-10, 10⟩⟩ request.form).Yields s result := by
  intro c s request
  have hcheck : request.form.check ⟨-10, 10⟩ = .ok request := rfl
  have hlarge : Scanner.slotLimit < request.maxSteps := by decide
  refine ⟨.commit (.empty ⟨-10, 10⟩ false) c, hcheck, Scanner.scan_of_lt hcheck hlarge s, ?_⟩
  intro result hyields
  exact Nat.not_le.mpr hlarge (Scanner.maxSteps_le_of_scan_ok hcheck hyields.result)

end Store

end TickWalk
