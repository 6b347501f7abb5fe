import TickWalk.Proofs.Action

/-!
# Runs that agree

Two runs agree when they make the same searches, leave related states, and either answer related
values or fail in the same way. Sequences agree when their parts do, and one of the two runs may
take quiet steps in between, such as reading a version or writing to the journal.
-/

namespace TickWalk

/-- What a read asks about the ticks of a snapshot. -/
def Event.search? : Event → Option Read
  | .read (.find cursor) => some (.find cursor)
  | .read (.fetch tick) => some (.fetch tick)
  | _ => none

/-- The searches in a trace, in their order: all reads but those of the version. -/
def searches (events : List Event) : List Read := events.filterMap Event.search?

lemma searches_append (before after : List Event) :
    searches (before ++ after) = searches before ++ searches after := List.filterMap_append

variable {σ τ α β γ δ : Type}

/-- Two results that are related answers or the same failure. -/
inductive Matching (Q : α → β → Prop) : Except Failure α → Except Failure β → Prop
  | ok {a : α} {b : β} (h : Q a b) : Matching Q (.ok a) (.ok b)
  | error (e : Failure) : Matching Q (.error e) (.error e)

lemma Matching.imp {Q Q' : α → β → Prop} {r : Except Failure α} {r' : Except Failure β}
    (h : Matching Q r r') (himp : ∀ a b, Q a b → Q' a b) : Matching Q' r r' := by
  cases h with
  | ok hab => exact .ok (himp _ _ hab)
  | error e => exact .error e

lemma Matching.eq_map {f : α → β} {r : Except Failure α} {r' : Except Failure β}
    (h : Matching (fun a b => b = f a) r r') : r' = r.map f := by
  cases h with
  | ok hab =>
    rw [hab]
    rfl
  | error e => rfl

lemma Matching.eq {r r' : Except Failure α} (h : Matching (fun a b => a = b) r r') : r = r' := by
  cases h with
  | ok hab => rw [hab]
  | error e => rfl

lemma Matching.exists_of_ok {Q : α → β → Prop} {a : α} {r : Except Failure β}
    (h : Matching Q (.ok a) r) : ∃ b, r = .ok b ∧ Q a b := by
  cases h with
  | ok hab => exact ⟨_, rfl, hab⟩

/-- Two outcomes with related states and results, and the same searches. -/
structure Outcome.Agrees (R : σ → τ → Prop) (Q : α → β → Prop) (o : Outcome σ α)
    (q : Outcome τ β) : Prop where
  result : Matching Q o.result q.result
  searches : searches o.events = searches q.events
  state : R o.state q.state

namespace Action

/-- From the state `s` the action answers `a` without any search and leaves the state `t`. -/
structure Quiet (x : Action σ α) (s : σ) (a : α) (t : σ) : Prop where
  result : (x.run s).result = .ok a
  searches : searches (x.run s).events = []
  state : (x.run s).state = t

lemma quiet_lift (a : α) (s : σ) : (lift (.ok a)).Quiet s a s := ⟨rfl, rfl, rfl⟩

lemma quiet_get (s : σ) : (get : Action σ σ).Quiet s s s := ⟨rfl, rfl, rfl⟩

lemma quiet_note {event : Event} (h : event.search? = none) (s : σ) : (note event).Quiet s () s := by
  refine ⟨rfl, ?_, rfl⟩
  rw [run_note, searches, List.filterMap_cons_none h, List.filterMap_nil]

lemma quiet_log (level : Journal.Level) (source text : String) (s : σ) :
    (log level source text).Quiet s () s := ⟨rfl, rfl, rfl⟩

variable {x : Action σ α} {y : Action τ β} {f : α → Action σ γ} {g : β → Action τ δ}
  {s s' : σ} {t t' : τ} {R : σ → τ → Prop} {Q : α → β → Prop} {Q' : γ → δ → Prop}

lemma run_bind_of_quiet {a : α} (hx : x.Quiet s a s') :
    ((x >>= f).run s).result = ((f a).run s').result ∧
      searches ((x >>= f).run s).events = searches ((f a).run s').events ∧
      ((x >>= f).run s).state = ((f a).run s').state := by
  obtain ⟨hr, hq, hs⟩ := hx
  cases hrun : x.run s with
  | mk result state before =>
    simp only [hrun] at hr hq hs
    subst hr hs
    rw [run_bind_of_ok hrun]
    refine ⟨rfl, ?_, rfl⟩
    rw [searches_append, hq, List.nil_append]

lemma Quiet.bind {a : α} {c : γ} {s'' : σ} (hx : x.Quiet s a s') (hf : (f a).Quiet s' c s'') :
    (x >>= f).Quiet s c s'' := by
  obtain ⟨hr, hq, hs⟩ := run_bind_of_quiet (f := f) hx
  exact ⟨hr.trans hf.result, hq.trans hf.searches, hs.trans hf.state⟩

lemma Quiet.attempt {a : α} (hx : x.Quiet s a s') : x.attempt.Quiet s (.ok a) s' :=
  ⟨congrArg Except.ok hx.result, hx.searches, hx.state⟩

end Action

namespace Outcome.Agrees

variable {x : Action σ α} {y : Action τ β} {f : α → Action σ γ} {g : β → Action τ δ}
  {s s' : σ} {t t' : τ} {R : σ → τ → Prop} {Q : α → β → Prop} {Q' : γ → δ → Prop}

lemma pure {a : α} {b : β} (hs : R s t) (h : Q a b) :
    ((Pure.pure a : Action σ α).run s).Agrees R Q ((Pure.pure b : Action τ β).run t) :=
  ⟨.ok h, rfl, hs⟩

lemma fail (hs : R s t) (e : Failure) :
    ((Action.lift (.error e) : Action σ α).run s).Agrees R Q
      ((Action.lift (.error e) : Action τ β).run t) :=
  ⟨.error e, rfl, hs⟩

lemma lift (hs : R s t) (r : Except Failure α) :
    ((Action.lift r : Action σ α).run s).Agrees R (fun a b => a = b)
      ((Action.lift r : Action τ α).run t) := by
  cases r with
  | ok a => exact pure hs rfl
  | error e => exact fail hs e

lemma note (hs : R s t) (event : Event) :
    ((Action.note event : Action σ Unit).run s).Agrees R (fun a b => a = b)
      ((Action.note event : Action τ Unit).run t) :=
  ⟨.ok rfl, rfl, hs⟩

lemma of_quiet {a : α} {b : β} (hx : x.Quiet s a s') (hy : y.Quiet t b t') (hQ : Q a b)
    (hR : R s' t') : (x.run s).Agrees R Q (y.run t) := by
  refine ⟨?_, ?_, ?_⟩
  · rw [hx.result, hy.result]
    exact .ok hQ
  · rw [hx.searches, hy.searches]
  · rw [hx.state, hy.state]
    exact hR

lemma imp {o : Outcome σ α} {q : Outcome τ β} {Q' : α → β → Prop} (h : o.Agrees R Q q)
    (himp : ∀ a b, Q a b → Q' a b) : o.Agrees R Q' q :=
  ⟨h.result.imp himp, h.searches, h.state⟩

/-- Sequences agree when their first parts do, and their second parts after related answers. -/
theorem bind (h : (x.run s).Agrees R Q (y.run t))
    (hrest : ∀ a b s' t', Q a b → R s' t' → ((f a).run s').Agrees R Q' ((g b).run t')) :
    ((x >>= f).run s).Agrees R Q' ((y >>= g).run t) := by
  obtain ⟨hr, hq, hs⟩ := h
  cases hx : x.run s with
  | mk xresult xstate xevents =>
    cases hy : y.run t with
    | mk yresult ystate yevents =>
      simp only [hx, hy] at hr hq hs
      cases hr with
      | ok hab =>
        have hafter := hrest _ _ _ _ hab hs
        rw [Action.run_bind_of_ok hx, Action.run_bind_of_ok hy]
        refine ⟨hafter.result, ?_, hafter.state⟩
        simp only [searches_append, hq, hafter.searches]
      | error e =>
        rw [Action.run_bind_of_error hx, Action.run_bind_of_error hy]
        exact ⟨.error e, hq, hs⟩

lemma quiet_left {Q' : γ → β → Prop} {a : α} (hx : x.Quiet s a s')
    (h : ((f a).run s').Agrees R Q' (y.run t)) : ((x >>= f).run s).Agrees R Q' (y.run t) := by
  obtain ⟨hr, hq, hs⟩ := Action.run_bind_of_quiet (f := f) hx
  exact ⟨hr ▸ h.result, hq ▸ h.searches, hs ▸ h.state⟩

lemma quiet_right {Q' : α → δ → Prop} {b : β} (hy : y.Quiet t b t')
    (h : (x.run s).Agrees R Q' ((g b).run t')) : (x.run s).Agrees R Q' ((y >>= g).run t) := by
  obtain ⟨hr, hq, hs⟩ := Action.run_bind_of_quiet (f := g) hy
  exact ⟨hr ▸ h.result, hq ▸ h.searches, hs ▸ h.state⟩

lemma bind_left {Q' : γ → β → Prop} (h : (x.run s).Agrees R Q (y.run t))
    (hrest : ∀ a b s' t', Q a b → R s' t' →
      ((f a).run s').Agrees R Q' ((Pure.pure b : Action τ β).run t')) :
    ((x >>= f).run s).Agrees R Q' (y.run t) := by
  have hafter := h.bind hrest
  rwa [bind_pure] at hafter

lemma bind_right {Q' : α → δ → Prop} (h : (x.run s).Agrees R Q (y.run t))
    (hrest : ∀ a b s' t', Q a b → R s' t' →
      ((Pure.pure a : Action σ α).run s').Agrees R Q' ((g b).run t')) :
    (x.run s).Agrees R Q' ((y >>= g).run t) := by
  have hafter := h.bind hrest
  rwa [bind_pure] at hafter

end Outcome.Agrees

end TickWalk
