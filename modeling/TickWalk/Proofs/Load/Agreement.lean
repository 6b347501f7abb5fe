import TickWalk.Load.Batches
import TickWalk.Proofs.Scan.Agreement

/-!
# Loads over providers that are alike

A load is made of scans. Over two providers that are alike each batch finds the same ticks at the same
version and is followed by the same next batch, so that loads and bands agree as scans do.
-/

namespace TickWalk

variable {σ τ : Type} {p : Provider σ} {q : Provider τ} {domain : KeyDomain} {R : σ → τ → Prop}
  {s : σ} {t : τ}

lemma loop_agrees_of_alike {r : LoadRequest} (h : p.Alike q domain r.snapshot r.spacing R)
    (hst : R s t) (fuel : Nat) (cursor : Value) (loaded : Loaded) :
    ((LoadRequest.loop ⟨p, domain⟩ r fuel cursor loaded).run s).Agrees R (fun a b => a = b)
      ((LoadRequest.loop ⟨q, domain⟩ r fuel cursor loaded).run t) := by
  induction fuel generalizing cursor loaded s t with
  | zero => exact Outcome.Agrees.pure hst rfl
  | succ fuel ih =>
    unfold LoadRequest.loop
    apply (Outcome.Agrees.lift hst _).bind
    rintro more _ s t rfl hst
    cases more with
    | false => exact Outcome.Agrees.pure hst rfl
    | true =>
      apply (Outcome.Agrees.lift hst _).bind
      rintro steps _ s t rfl hst
      have hscan := Scanner.scan_agrees_of_alike
        ⟨r.snapshot, cursor, .ok r.direction, steps, r.spacing⟩ h hst
      apply hscan.bind
      rintro result _ s t rfl hst
      apply (Outcome.Agrees.lift hst _).bind
      rintro version _ s t rfl hst
      cases result.exhausted with
      | true => exact Outcome.Agrees.pure hst rfl
      | false =>
        cases result.lastTick? with
        | none => exact Outcome.Agrees.pure hst rfl
        | some last => exact ih hst _ _

theorem loadTicks_agrees_of_alike {r : LoadRequest}
    (h : p.Alike q domain r.snapshot r.spacing R) (hst : R s t) :
    ((loadTicks ⟨p, domain⟩ r).run s).Agrees R (fun a b => a = b)
      ((loadTicks ⟨q, domain⟩ r).run t) := by
  unfold loadTicks
  apply (Outcome.Agrees.lift hst r.check).bind
  rintro _ _ s t - hst
  apply (loop_agrees_of_alike h hst r.fuel r.start ⟨[], r.expected, 0⟩).bind
  rintro loaded _ s t rfl hst
  have hclose : ∀ (s : σ) (t : τ) (version : Value), R s t →
      ((do
        Action.log .debug LoadRequest.source
          (s!"Loaded {loaded.records.length} {r.direction.name} ticks from {r.start.display} " ++
            s!"in {loaded.batches} batches")
        pure (loaded.records, version) : Action σ (List TickRecord × Value)).run s).Agrees R
          (fun a b => a = b) ((do
            Action.log .debug LoadRequest.source
              (s!"Loaded {loaded.records.length} {r.direction.name} ticks from {r.start.display} " ++
                s!"in {loaded.batches} batches")
            pure (loaded.records, version) : Action τ (List TickRecord × Value)).run t) := by
    intro s t version hst
    apply Outcome.Agrees.quiet_left (Action.quiet_log _ _ _ s)
    apply Outcome.Agrees.quiet_right (Action.quiet_log _ _ _ t)
    exact Outcome.Agrees.pure hst rfl
  cases loaded.version with
  | some version => exact hclose s t version hst
  | none =>
    apply (h.version s t hst).bind
    rintro version _ s t rfl hst
    exact hclose s t version hst

theorem loadBand_agrees_of_alike {r : BandRequest}
    (h : p.Alike q domain r.snapshot r.spacing R) (hst : R s t) :
    ((loadBand ⟨p, domain⟩ r).run s).Agrees R (fun a b => a = b)
      ((loadBand ⟨q, domain⟩ r).run t) := by
  unfold loadBand
  have hbelow := loadTicks_agrees_of_alike
    (r := ⟨r.snapshot, r.current, .inclusive, r.spacing, r.band, r.batch, none⟩) h hst
  apply hbelow.bind
  rintro below _ s t rfl hst
  have habove := loadTicks_agrees_of_alike
    (r := ⟨r.snapshot, r.current, .exclusive, r.spacing, r.band, r.batch, some below.2⟩) h hst
  apply habove.bind
  rintro above _ s t rfl hst
  apply (Outcome.Agrees.lift hst _).bind
  rintro line _ s t rfl hst
  apply Outcome.Agrees.quiet_left (Action.quiet_log _ _ _ s)
  apply Outcome.Agrees.quiet_right (Action.quiet_log _ _ _ t)
  exact Outcome.Agrees.pure hst rfl

end TickWalk
