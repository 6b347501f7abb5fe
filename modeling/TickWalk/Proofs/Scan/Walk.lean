import TickWalk.Proofs.Scan.Basic

/-!
# Walks in one and in several parts

A walk repeats one visit: it asks for a candidate, and records it when it is strictly inside the
domain. `Scanner.walkTo` keeps the cursor that comes after the last record, so that a walk can be
split anywhere: a walk of `a + b` steps is one of `a` steps, and another one of `b` steps from where
the first one has come unless that one has ended before.
-/

namespace TickWalk.Scanner

variable {σ : Type}

/-- One step of a walk: the record of the next candidate and the cursor after it, or nothing when the
candidate is not strictly inside the domain. -/
def visit (s : Scanner σ) (request : ScanRequest) (found : Nat) (cursor : Value) :
    Action σ (Option (TickRecord × Value)) := do
  let candidate ← s.provider.find request.snapshot cursor request.direction (.int request.spacing)
  let (flag, tick) ← Action.lift candidate.pair
  if ← Action.lift (s.domain.admits tick) then
    let stored ← s.provider.fetch request.snapshot tick
    let (gross, net) ← Action.lift stored.pair
    if !flag.truthy then
      Action.log .debug source s!"Recording uninitialized candidate tick {tick.display}"
    let record ← Action.lift (TickRecord.ofValues flag tick gross net)
    let next ← Action.lift (request.direction.advance tick)
    pure (some (record, next))
  else do
    Action.log .debug source
      s!"Candidate tick {tick.display} reached domain bound after {found} ticks"
    pure none

/-- A walk that also tells the cursor from which it would go on. -/
def walkTo (s : Scanner σ) (request : ScanRequest) :
    (left found : Nat) → (cursor : Value) → Action σ (List TickRecord × Value)
  | 0, _, cursor => pure ([], cursor)
  | left + 1, found, cursor => do
    match ← s.visit request found cursor with
    | none => pure ([], cursor)
    | some (record, next) =>
      let (rest, last) ← walkTo s request left (found + 1) next
      pure (record :: rest, last)

variable (s : Scanner σ) (request : ScanRequest)

lemma walk_succ (left found : Nat) (cursor : Value) :
    s.walk request (left + 1) found cursor = (do
      match ← s.visit request found cursor with
      | none => pure []
      | some (record, next) =>
        let rest ← s.walk request left (found + 1) next
        pure (record :: rest)) := by
  unfold visit
  rw [walk]
  simp only [bind_assoc]
  refine bind_congr fun candidate => bind_congr fun pair => bind_congr fun admitted => ?_
  cases admitted with
  | false => simp
  | true =>
    simp only [if_true, bind_assoc]
    refine bind_congr fun stored => bind_congr fun amounts => ?_
    cases pair.1.truthy <;> simp [bind_assoc]

theorem walk_eq_walkTo (left found : Nat) (cursor : Value) :
    s.walk request left found cursor = Prod.fst <$> s.walkTo request left found cursor := by
  induction left generalizing found cursor with
  | zero => simp [walk, walkTo]
  | succ left ih =>
    rw [walk_succ, walkTo, map_bind]
    apply bind_congr
    intro visited
    cases visited with
    | none => simp
    | some hit => simp [ih]

lemma follow_eq : s.follow request = (do
    let walked ← s.walkTo request request.maxSteps 0 (.int request.start)
    let version ← s.provider.version request.snapshot
    Action.log .debug source
      (s!"Scanned {walked.1.length}/{request.maxSteps} ticks from {request.start} " ++
        s!"({request.direction.name}) at version {version.display}")
    pure (ScanResult.padded request.maxSteps walked.1 version request.direction)) := by
  unfold follow
  rw [walk_eq_walkTo, map_eq_pure_bind, bind_assoc]
  simp only [pure_bind]
  rfl

/-- A walk of `a + b` steps in two parts. -/
theorem walkTo_add (a b found : Nat) (cursor : Value) :
    s.walkTo request (a + b) found cursor = (do
      let first ← s.walkTo request a found cursor
      if first.1.length < a then pure first
      else
        let second ← s.walkTo request b (found + a) first.2
        pure (first.1 ++ second.1, second.2)) := by
  induction a generalizing found cursor with
  | zero => simp [walkTo]
  | succ a ih =>
    rw [Nat.succ_add, walkTo, walkTo, bind_assoc]
    apply bind_congr
    intro visited
    cases visited with
    | none => simp
    | some hit =>
      simp only [ih, bind_assoc, pure_bind, List.length_cons, Nat.add_lt_add_iff_right]
      apply bind_congr
      intro first
      by_cases hshort : first.1.length < a
      · simp [hshort]
      · simp [hshort, Nat.add_assoc, Nat.add_comm 1 a]

end TickWalk.Scanner
