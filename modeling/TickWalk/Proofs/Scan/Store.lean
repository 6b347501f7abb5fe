import TickWalk.Proofs.Scan.Walk
import TickWalk.Proofs.Store.Search

/-!
# Scanning a store

Reads of a store are answered and leave it as it was, so that a scan of a committed snapshot always
returns. When every search finds the nearest key with some property, the scan records the keys with
that property that are ahead of the start, up to the first one not strictly inside the domain.
-/

namespace TickWalk

/-- The record of a tick: what the snapshot holds under it, or an empty one that is not initialized. -/
def Snapshot.recordAt (snap : Snapshot) (t : Int) : TickRecord :=
  match snap.liquidity.get? t with
  | some l => ⟨true, t, l.gross, l.net⟩
  | none => ⟨false, t, 0, 0⟩

lemma Snapshot.recordAt_tick (snap : Snapshot) (t : Int) : (snap.recordAt t).tick = t := by
  unfold recordAt
  split <;> rfl

lemma Snapshot.recordAt_initialized (snap : Snapshot) (t : Int) :
    (snap.recordAt t).initialized = snap.occupied t := by
  unfold recordAt occupied
  split <;> simp_all

namespace Store

variable {s : Store} {handle : Value} {snap : Snapshot} {spacing cursor t : Int} {d : Direction}
  {flag : Bool}

lemma yields_find (h : s.find handle (.int cursor) d (.int spacing) = .ok (flag, t)) :
    (provider.find handle (.int cursor) d (.int spacing)).Yields s (.list [.bool flag, .int t]) := by
  refine (Action.yields_note _ s).bind ((Action.yields_get s).bind ?_)
  rw [h]
  exact (Action.yields_lift _ s).bind (Action.yields_pure _ s)

lemma fails_find {e : Failure} {cursor given : Value}
    (h : s.find handle cursor d given = .error e) :
    (provider.find handle cursor d given).Fails s e := by
  refine (Action.yields_note _ s).bind_fails ((Action.yields_get s).bind_fails ?_)
  rw [h]
  exact (Action.fails_lift e s).bind _

lemma liquidityAt_int (snap : Snapshot) (t : Int) :
    liquidityAt snap (.int t) = .ok ((snap.liquidity.get? t).getD ⟨0, 0⟩) := by
  have hfind : (snap.liquidity.find? fun e => (Value.int e.1).same (.int t)).map (·.2) =
      snap.liquidity.get? t := by
    generalize snap.liquidity = entries
    induction entries with
    | nil => rfl
    | cons e rest ih =>
      obtain ⟨n, l⟩ := e
      rw [Keyed.get?_cons, List.find?_cons, Value.same_int]
      by_cases h : t = n
      · simp [h]
      · have hne : (n == t) = false := by simpa using fun hn : n = t => h hn.symm
        rw [hne, if_neg h]
        exact ih
  unfold liquidityAt
  rw [hfind]
  rfl

lemma yields_fetch (hsnap : s.snapshot handle = .ok snap) (t : Int) :
    (provider.fetch handle (.int t)).Yields s
      (.list [.int (snap.recordAt t).gross, .int (snap.recordAt t).net]) := by
  have hrecord : (snap.recordAt t).gross = ((snap.liquidity.get? t).getD ⟨0, 0⟩).gross ∧
      (snap.recordAt t).net = ((snap.liquidity.get? t).getD ⟨0, 0⟩).net := by
    unfold Snapshot.recordAt
    cases snap.liquidity.get? t <;> exact ⟨rfl, rfl⟩
  rw [hrecord.1, hrecord.2]
  refine (Action.yields_note _ s).bind ((Action.yields_get s).bind ?_)
  rw [fetch, hsnap, ok_bind, liquidityAt_int]
  exact (Action.yields_lift _ s).bind (Action.yields_pure _ s)

lemma yields_version (hsnap : s.snapshot handle = .ok snap) :
    (provider.version handle).Yields s snap.version := by
  refine (Action.yields_note _ s).bind ((Action.yields_get s).bind ?_)
  rw [version, hsnap]
  exact Action.yields_lift _ s

variable {domain : KeyDomain} {request : ScanRequest} {rest : List TickRecord}

lemma yields_visit (hsnap : s.snapshot request.snapshot = .ok snap)
    (hfind : s.find request.snapshot (.int cursor) request.direction (.int request.spacing) =
      .ok (flag, t))
    (hin : domain.strictlyInside t = true) (found : Nat) :
    (Scanner.visit ⟨provider, domain⟩ request found (.int cursor)).Yields s
      (some (⟨flag, t, (snap.recordAt t).gross, (snap.recordAt t).net⟩,
        .int (request.direction.nextCursor t))) := by
  unfold Scanner.visit
  apply (yields_find hfind).bind
  simp only [Value.pair_list, Action.lift_ok_bind, KeyDomain.admits_int, hin, if_true]
  apply (yields_fetch hsnap t).bind
  simp only [Value.pair_list, Action.lift_ok_bind, TickRecord.ofValues_int, Direction.advance_int]
  cases flag with
  | true => exact Action.yields_pure _ s
  | false => exact (Action.yields_log _ _ _ s).bind (Action.yields_pure _ s)

lemma yields_visit_none
    (hfind : s.find request.snapshot (.int cursor) request.direction (.int request.spacing) =
      .ok (flag, t))
    (hout : domain.strictlyInside t = false) (found : Nat) :
    (Scanner.visit ⟨provider, domain⟩ request found (.int cursor)).Yields s none := by
  unfold Scanner.visit
  apply (yields_find hfind).bind
  simp only [Value.pair_list, Action.lift_ok_bind, KeyDomain.admits_int, hout]
  exact (Action.yields_log _ _ _ s).bind (Action.yields_pure none s)

lemma yields_walk_cons (hsnap : s.snapshot request.snapshot = .ok snap)
    (hfind : s.find request.snapshot (.int cursor) request.direction (.int request.spacing) =
      .ok (flag, t))
    (hin : domain.strictlyInside t = true) {left found : Nat}
    (hrest : (Scanner.walk ⟨provider, domain⟩ request left (found + 1)
      (.int (request.direction.nextCursor t))).Yields s rest) :
    (Scanner.walk ⟨provider, domain⟩ request (left + 1) found (.int cursor)).Yields s
      (⟨flag, t, (snap.recordAt t).gross, (snap.recordAt t).net⟩ :: rest) := by
  rw [Scanner.walk_succ]
  apply (yields_visit hsnap hfind hin found).bind
  exact hrest.bind (Action.yields_pure _ s)

lemma yields_walk_nil
    (hfind : s.find request.snapshot (.int cursor) request.direction (.int request.spacing) =
      .ok (flag, t))
    (hout : domain.strictlyInside t = false) (left found : Nat) :
    (Scanner.walk ⟨provider, domain⟩ request (left + 1) found (.int cursor)).Yields s [] := by
  rw [Scanner.walk_succ]
  exact (yields_visit_none hfind hout found).bind (Action.yields_pure [] s)

/-- Searches for keys with the property `P`: each finds the nearest one and flags it when it is
occupied, unless none is reached and the answer is not strictly inside the domain. -/
def Seeks (s : Store) (snap : Snapshot) (domain : KeyDomain) (request : ScanRequest)
    (P : Int → Bool) : Prop :=
  ∀ cursor, ∃ flag t,
    s.find request.snapshot (.int cursor) request.direction (.int request.spacing) =
        .ok (flag, t) ∧
      ((flag = snap.occupied t ∧ request.direction.Nearest P cursor t) ∨
        (domain.strictlyInside t = false ∧
          ∀ u, request.direction.reaches cursor u = true → P u = false))

/-- A walk whose searches look for keys with some property records the course from its cursor, as far
as the steps allow. -/
theorem yields_walk {P : Int → Bool} (hsnap : s.snapshot request.snapshot = .ok snap)
    (hseeks : s.Seeks snap domain request P) (left found : Nat) (cursor : Int)
    (hcursor : domain.contains cursor = true) :
    (Scanner.walk ⟨provider, domain⟩ request left found (.int cursor)).Yields s
      (((domain.course request.direction P cursor).take left).map snap.recordAt) := by
  induction left generalizing found cursor with
  | zero => exact Action.yields_pure _ s
  | succ left ih =>
    obtain ⟨flag, t, hfind, ⟨hflag, hnearest⟩ | ⟨hout, hnone⟩⟩ := hseeks cursor
    · cases hin : domain.strictlyInside t with
      | true =>
        have hrecord : (⟨flag, t, (snap.recordAt t).gross, (snap.recordAt t).net⟩ : TickRecord) =
            snap.recordAt t := by
          rw [hflag, ← snap.recordAt_initialized t]
          nth_rewrite 2 [← snap.recordAt_tick t]
          rfl
        rw [KeyDomain.course_of_nearest hcursor hnearest hin, List.take_succ_cons, List.map_cons,
          ← hrecord]
        exact yields_walk_cons hsnap hfind hin
          (ih (found + 1) _ (KeyDomain.contains_nextCursor hin _))
      | false =>
        rw [KeyDomain.course_of_nearest_outside hcursor hnearest hin]
        exact yields_walk_nil hfind hin left found
    · rw [KeyDomain.course_of_none hcursor hnone]
      exact yields_walk_nil hfind hout left found

/-- A request that is followed reports what its walk records and the version of the snapshot. -/
theorem yields_follow {records : List TickRecord} (hsnap : s.snapshot request.snapshot = .ok snap)
    (hwalk : (Scanner.walk ⟨provider, domain⟩ request request.maxSteps 0
      (.int request.start)).Yields s records) :
    (Scanner.follow ⟨provider, domain⟩ request).Yields s
      (ScanResult.padded request.maxSteps records snap.version request.direction) := by
  apply hwalk.bind
  apply (yields_version hsnap).bind
  exact (Action.yields_log _ _ _ s).bind (Action.yields_pure _ s)

/-- Where its searches look for keys with some property, a request that is followed records the course
from its start as far as its steps allow. -/
theorem yields_follow_course {P : Int → Bool} (hstart : domain.contains request.start = true)
    (hsnap : s.snapshot request.snapshot = .ok snap) (hseeks : s.Seeks snap domain request P) :
    (Scanner.follow ⟨provider, domain⟩ request).Yields s
      (ScanResult.padded request.maxSteps
        (((domain.course request.direction P request.start).take request.maxSteps).map
          snap.recordAt) snap.version request.direction) :=
  yields_follow hsnap (yields_walk hsnap hseeks request.maxSteps 0 request.start hstart)

/-- A scan whose slots can be laid out follows its request. -/
theorem yields_scan {form : RequestForm} {records : List TickRecord}
    (hcheck : form.check domain = .ok request) (hroom : request.maxSteps ≤ Scanner.slotLimit)
    (hsnap : s.snapshot request.snapshot = .ok snap)
    (hwalk : (Scanner.walk ⟨provider, domain⟩ request request.maxSteps 0
      (.int request.start)).Yields s records) :
    (Scanner.scan ⟨provider, domain⟩ form).Yields s
      (ScanResult.padded request.maxSteps records snap.version request.direction) := by
  rw [Scanner.scan_of_ready (RequestForm.ready_of_le hcheck hroom)]
  exact yields_follow hsnap hwalk

theorem yields_scan_course {P : Int → Bool} {form : RequestForm}
    (hcheck : form.check domain = .ok request) (hroom : request.maxSteps ≤ Scanner.slotLimit)
    (hsnap : s.snapshot request.snapshot = .ok snap) (hseeks : s.Seeks snap domain request P) :
    (Scanner.scan ⟨provider, domain⟩ form).Yields s
      (ScanResult.padded request.maxSteps
        (((domain.course request.direction P request.start).take request.maxSteps).map
          snap.recordAt) snap.version request.direction) := by
  obtain ⟨-, -, hstart⟩ := RequestForm.check_eq_ok_iff.mp hcheck
  rw [Scanner.scan_of_ready (RequestForm.ready_of_le hcheck hroom)]
  exact yields_follow_course hstart hsnap hseeks

end Store

end TickWalk
