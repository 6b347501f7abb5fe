import TickWalk.Proofs.Agreement
import TickWalk.Proofs.Course
import TickWalk.Proofs.Scan.Walk

/-!
# Walks over providers that search alike

Two providers search alike when, from related states, their searches fail in the same way or answer
the same integers and lead to related states again. Walks over them then make the same searches and
record the same ticks.
-/

namespace TickWalk

/-- Two candidates with the same flag and the same integer tick. -/
def SameCandidate (v w : Value) : Prop :=
  ∃ (flag : Value) (tick : Int), v.pair = .ok (flag, .int tick) ∧ w.pair = .ok (flag, .int tick)

/-- Two pairs of the same integer amounts. -/
def SameAmounts (v w : Value) : Prop :=
  ∃ gross net : Int, v.pair = .ok (.int gross, .int net) ∧ w.pair = .ok (.int gross, .int net)

variable {σ τ : Type}

structure Provider.SearchAlike (p : Provider σ) (q : Provider τ) (domain : KeyDomain)
    (snapshot : Value) (d : Direction) (spacing : Int) (R : σ → τ → Prop) : Prop where
  find : ∀ s t cursor, R s t → domain.contains cursor = true →
    ((p.find snapshot (.int cursor) d (.int spacing)).run s).Agrees R SameCandidate
      ((q.find snapshot (.int cursor) d (.int spacing)).run t)
  fetch : ∀ s t tick, R s t → domain.strictlyInside tick = true →
    ((p.fetch snapshot (.int tick)).run s).Agrees R SameAmounts
      ((q.fetch snapshot (.int tick)).run t)

/-- The providers search alike for every spacing that a loose one may mean, and tell the same version. -/
structure Provider.Alike (p : Provider σ) (q : Provider τ) (domain : KeyDomain)
    (snapshot given : Value) (R : σ → τ → Prop) : Prop where
  search : ∀ d spacing, given = .int spacing → p.SearchAlike q domain snapshot d spacing R
  version : ∀ s t, R s t → ((p.version snapshot).run s).Agrees R (fun v w => v = w)
    ((q.version snapshot).run t)

namespace Direction

/-- The cursor after records that were found from `cursor` on. -/
def resume (d : Direction) (cursor : Int) (records : List TickRecord) : Int :=
  match records.getLast? with
  | none => cursor
  | some record => d.nextCursor record.tick

lemma resume_cons (d : Direction) (cursor : Int) (record : TickRecord) (rest : List TickRecord) :
    d.resume cursor (record :: rest) = d.resume (d.nextCursor record.tick) rest := by
  unfold resume
  rw [List.getLast?_cons]
  cases rest.getLast? <;> rfl

lemma contains_resume {domain : KeyDomain} {cursor : Int} {records : List TickRecord}
    (hcursor : domain.contains cursor = true)
    (h : ∀ record ∈ records, domain.strictlyInside record.tick = true) (d : Direction) :
    domain.contains (d.resume cursor records) = true := by
  unfold resume
  cases hlast : records.getLast? with
  | none => exact hcursor
  | some record =>
    exact KeyDomain.contains_nextCursor (h record (List.mem_of_getLast? hlast)) d

end Direction

/-- What a walk of `left` steps from a cursor leaves behind: records strictly inside the domain, and the
cursor after them. -/
structure Walked (domain : KeyDomain) (d : Direction) (left : Nat) (cursor : Int)
    (a : List TickRecord × Value) : Prop where
  next : a.2 = .int (d.resume cursor a.1)
  length_le : a.1.length ≤ left
  inside : ∀ record ∈ a.1, domain.strictlyInside record.tick = true

namespace Scanner

variable {p : Provider σ} {q : Provider τ} {domain : KeyDomain} {snapshot : Value} {d : Direction}
  {spacing : Int} {R : σ → τ → Prop} {s : σ} {t : τ}

lemma visit_agrees (h : p.SearchAlike q domain snapshot d spacing R) (hst : R s t) {cursor : Int}
    (hcursor : domain.contains cursor = true) (start start' : Int)
    (maxSteps maxSteps' found found' : Nat) :
    ((visit ⟨p, domain⟩ ⟨snapshot, start, d, maxSteps, spacing⟩ found (.int cursor)).run s).Agrees R
      (fun a b => a = b ∧ ∀ record next, a = some (record, next) →
        next = .int (d.nextCursor record.tick) ∧ domain.strictlyInside record.tick = true)
      ((visit ⟨q, domain⟩ ⟨snapshot, start', d, maxSteps', spacing⟩ found'
        (.int cursor)).run t) := by
  unfold visit
  apply (h.find s t cursor hst hcursor).bind
  rintro v w s t ⟨flag, tick, hv, hw⟩ hst
  rw [hv, hw]
  simp only [Action.lift_ok_bind, KeyDomain.admits_int]
  cases hin : domain.strictlyInside tick with
  | false =>
    apply Outcome.Agrees.quiet_left (Action.quiet_log _ _ _ s)
    apply Outcome.Agrees.quiet_right (Action.quiet_log _ _ _ t)
    refine Outcome.Agrees.pure hst ⟨rfl, ?_⟩
    intro record next hnone
    cases hnone
  | true =>
    apply (h.fetch s t tick hst hin).bind
    rintro v w s t ⟨gross, net, hv, hw⟩ hst
    rw [hv, hw]
    simp only [Action.lift_ok_bind, TickRecord.ofValues_int, Direction.advance_int]
    have hrecorded : ((pure (some (⟨flag.truthy, tick, gross, net⟩, .int (d.nextCursor tick))) :
        Action σ (Option (TickRecord × Value))).run s).Agrees R
          (fun a b => a = b ∧ ∀ record next, a = some (record, next) →
            next = .int (d.nextCursor record.tick) ∧ domain.strictlyInside record.tick = true)
          ((pure (some (⟨flag.truthy, tick, gross, net⟩, .int (d.nextCursor tick))) :
            Action τ (Option (TickRecord × Value))).run t) := by
      refine Outcome.Agrees.pure hst ⟨rfl, ?_⟩
      intro record next hsome
      cases hsome
      exact ⟨rfl, hin⟩
    by_cases hfree : (!flag.truthy) = true
    · simp only [if_pos hfree]
      apply Outcome.Agrees.quiet_left (Action.quiet_log _ _ _ s)
      exact Outcome.Agrees.quiet_right (Action.quiet_log _ _ _ t) hrecorded
    · simp only [if_neg hfree]
      exact hrecorded

/-- Walks over providers that search alike agree, whatever their journals count. -/
theorem walkTo_agrees (h : p.SearchAlike q domain snapshot d spacing R) (hst : R s t) {cursor : Int}
    (hcursor : domain.contains cursor = true) (start start' : Int)
    (maxSteps maxSteps' left found found' : Nat) :
    ((walkTo ⟨p, domain⟩ ⟨snapshot, start, d, maxSteps, spacing⟩ left found
      (.int cursor)).run s).Agrees R (fun a b => a = b ∧ Walked domain d left cursor a)
      ((walkTo ⟨q, domain⟩ ⟨snapshot, start', d, maxSteps', spacing⟩ left found'
        (.int cursor)).run t) := by
  induction left generalizing found found' cursor s t with
  | zero => exact Outcome.Agrees.pure hst ⟨rfl, rfl, le_rfl, by simp⟩
  | succ left ih =>
    unfold walkTo
    apply (visit_agrees h hst hcursor start start' maxSteps maxSteps' found found').bind
    rintro visited _ s t ⟨rfl, hvisited⟩ hst
    cases visited with
    | none => exact Outcome.Agrees.pure hst ⟨rfl, rfl, Nat.zero_le _, by simp⟩
    | some hit =>
      obtain ⟨record, next⟩ := hit
      obtain ⟨rfl, hin⟩ := hvisited record next rfl
      apply (ih hst (KeyDomain.contains_nextCursor hin d) (found + 1) (found' + 1)).bind
      rintro rest _ s t ⟨rfl, hrest⟩ hst
      refine Outcome.Agrees.pure hst ⟨rfl, ?_, ?_, ?_⟩
      · rw [Direction.resume_cons]
        exact hrest.next
      · exact Nat.succ_le_succ hrest.length_le
      · exact List.forall_mem_cons.mpr ⟨hin, hrest.inside⟩

/-- Scans over providers that are alike agree. -/
theorem scan_agrees_of_alike (form : RequestForm)
    (h : p.Alike q domain form.snapshot form.spacing R) (hst : R s t) :
    ((scan ⟨p, domain⟩ form).run s).Agrees R (fun a b => a = b)
      ((scan ⟨q, domain⟩ form).run t) := by
  rw [scan_eq, scan_eq]
  cases hready : form.ready domain with
  | error e => exact Outcome.Agrees.fail hst e
  | ok request =>
    obtain ⟨rfl, -, hstart⟩ :=
      RequestForm.check_eq_ok_iff.mp (RequestForm.check_of_ready hready).1
    rw [Action.lift_ok_bind, Action.lift_ok_bind, follow_eq, follow_eq]
    have hsearch := h.search request.direction request.spacing rfl
    apply (walkTo_agrees hsearch hst hstart request.start request.start request.maxSteps
      request.maxSteps request.maxSteps 0 0).bind
    rintro walked _ s t ⟨rfl, -⟩ hst
    apply (h.version s t hst).bind
    rintro version _ s t rfl hst
    apply Outcome.Agrees.quiet_left (Action.quiet_log _ _ _ s)
    apply Outcome.Agrees.quiet_right (Action.quiet_log _ _ _ t)
    exact Outcome.Agrees.pure hst rfl

end Scanner

end TickWalk
