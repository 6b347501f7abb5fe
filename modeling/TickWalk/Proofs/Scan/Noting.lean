import TickWalk.Proofs.Scan.Walk
import TickWalk.Proofs.Trace

/-!
# Versions told on the way

`Provider.noting` is a provider that answers as another one does and keeps a list of the versions it
has told. `Action.Tells` compares a run over it with the run over the provider itself: they do the
same, and the list grows by some versions. A scan tells one version when it returns, and none when it
fails.
-/

namespace TickWalk

variable {σ τ α β : Type}

namespace Action

/-- Runs on the first part of a state and leaves the second part as it is. -/
def onFirst (x : Action σ α) : Action (σ × τ) α := fun s =>
  let o := x.run s.1
  ⟨o.result, (o.state, s.2), o.events⟩

lemma onFirst_log (level : Journal.Level) (source text : String) :
    (onFirst (log level source text : Action σ Unit) : Action (σ × τ) Unit) = log level source text :=
  rfl

lemma onFirst_bind (x : Action σ α) (f : α → Action σ β) :
    (onFirst (x >>= f) : Action (σ × τ) β) = onFirst x >>= fun a => onFirst (f a) := by
  funext s
  change (⟨((x >>= f).run s.1).result, (((x >>= f).run s.1).state, s.2),
    ((x >>= f).run s.1).events⟩ : Outcome (σ × τ) β) = (onFirst x >>= fun a => onFirst (f a)).run s
  cases hx : x.run s.1 with
  | mk result state before =>
    have hfirst : (onFirst x : Action (σ × τ) α).run s = ⟨result, (state, s.2), before⟩ := by
      change (⟨(x.run s.1).result, ((x.run s.1).state, s.2), (x.run s.1).events⟩ :
        Outcome (σ × τ) α) = _
      rw [hx]
    cases result with
    | ok a =>
      rw [run_bind_of_ok hx, run_bind_of_ok hfirst]
      rfl
    | error e => rw [run_bind_of_error hx, run_bind_of_error hfirst]

/-- Puts a version on the list, and answers it. -/
def jot (v : Value) : Action (σ × List Value) Value := fun s => ⟨.ok v, (s.1, s.2 ++ [v]), []⟩

/-- Beside a list of versions `y` runs as `x` does, and puts `told` on the list. -/
def Tells (y : Action (σ × List Value) α) (x : Action σ α) (s : σ) (told : List Value) : Prop :=
  ∀ noted, y.run (s, noted) =
    ⟨(x.run s).result, ((x.run s).state, noted ++ told), (x.run s).events⟩

variable {x : Action σ α} {y : Action (σ × List Value) α} {f : α → Action σ β}
  {g : α → Action (σ × List Value) β} {s t : σ} {a : α} {told more : List Value}
  {before : List Event}

lemma tells_onFirst (x : Action σ α) (s : σ) : (onFirst x).Tells x s [] := by
  intro noted
  rw [List.append_nil]
  rfl

lemma Tells.bind (h : y.Tells x s told) (hx : x.run s = ⟨.ok a, t, before⟩)
    (hrest : (g a).Tells (f a) t more) : (y >>= g).Tells (x >>= f) s (told ++ more) := by
  intro noted
  have hy := h noted
  rw [hx] at hy
  rw [run_bind_of_ok hx, run_bind_of_ok hy, hrest, List.append_assoc]

lemma Tells.bind_error {e : Failure} (h : y.Tells x s told) (hx : x.run s = ⟨.error e, t, before⟩)
    (f : α → Action σ β) (g : α → Action (σ × List Value) β) :
    (y >>= g).Tells (x >>= f) s told := by
  intro noted
  have hy := h noted
  rw [hx] at hy
  rw [run_bind_of_error hx, run_bind_of_error hy]

end Action

namespace Provider

/-- Answers as `p` does, and keeps the versions that it tells. -/
def noting (p : Provider σ) : Provider (σ × List Value) where
  answerFind snapshot cursor d spacing := Action.onFirst (p.answerFind snapshot cursor d spacing)
  answerFetch snapshot tick := Action.onFirst (p.answerFetch snapshot tick)
  answerVersion snapshot := Action.onFirst (p.answerVersion snapshot) >>= Action.jot

variable (p : Provider σ)

lemma noting_find (snapshot cursor : Value) (d : Direction) (spacing : Value) :
    p.noting.find snapshot cursor d spacing = Action.onFirst (p.find snapshot cursor d spacing) := by
  unfold find
  rw [Action.onFirst_bind]
  rfl

lemma noting_fetch (snapshot tick : Value) :
    p.noting.fetch snapshot tick = Action.onFirst (p.fetch snapshot tick) := by
  unfold fetch
  rw [Action.onFirst_bind]
  rfl

lemma noting_version (snapshot : Value) :
    p.noting.version snapshot = Action.onFirst (p.version snapshot) >>= Action.jot := by
  unfold version noting
  rw [Action.onFirst_bind, bind_assoc]
  rfl

lemma tells_version (snapshot : Value) (s : σ) :
    (∃ e t events, (p.version snapshot).run s = ⟨.error e, t, events⟩ ∧
      (p.noting.version snapshot).Tells (p.version snapshot) s []) ∨
    ∃ v t events, (p.version snapshot).run s = ⟨.ok v, t, events⟩ ∧
      (p.noting.version snapshot).Tells (p.version snapshot) s [v] := by
  rw [noting_version]
  cases hrun : (p.version snapshot).run s with
  | mk result t events =>
    cases result with
    | error e =>
      refine .inl ⟨e, t, events, rfl, ?_⟩
      have herror := (Action.tells_onFirst (p.version snapshot) s).bind_error hrun pure Action.jot
      rwa [bind_pure] at herror
    | ok v =>
      refine .inr ⟨v, t, events, rfl, ?_⟩
      have hjot : (Action.jot v).Tells (pure v) t [v] := fun _ => rfl
      have hok := (Action.tells_onFirst (p.version snapshot) s).bind hrun hjot
      rwa [bind_pure] at hok

end Provider

/-- The run ends with a version read that tells `v`: it leaves the state which that read leaves, and
asks nothing after it. -/
def Outcome.EndsWithVersion (o : Outcome σ α) (p : Provider σ) (snapshot v : Value) : Prop :=
  ∃ u before told after, (p.version snapshot).run u = ⟨.ok v, o.state, told⟩ ∧
    o.events = before ++ told ++ after ∧ reads after = []

namespace Scanner

variable (p : Provider σ) (domain : KeyDomain) (request : ScanRequest)

lemma visit_noting (found : Nat) (cursor : Value) :
    visit ⟨p.noting, domain⟩ request found cursor =
      Action.onFirst (visit ⟨p, domain⟩ request found cursor) := by
  -- A visit reads no version, and the two providers differ in nothing else.
  unfold visit
  rw [Action.onFirst_bind, ← p.noting_find]
  refine bind_congr fun candidate => ?_
  rw [Action.onFirst_bind]
  refine bind_congr fun pair => ?_
  rw [Action.onFirst_bind]
  refine bind_congr fun admitted => ?_
  cases admitted with
  | false => rfl
  | true =>
    simp only [if_true]
    rw [Action.onFirst_bind, ← p.noting_fetch]
    refine bind_congr fun stored => ?_
    rw [Action.onFirst_bind]
    refine bind_congr fun amounts => ?_
    have hrecorded : (do
        let record ← Action.lift (TickRecord.ofValues pair.1 pair.2 amounts.1 amounts.2)
        let next ← Action.lift (request.direction.advance pair.2)
        pure (some (record, next)) : Action (σ × List Value) (Option (TickRecord × Value))) =
        Action.onFirst (do
          let record ← Action.lift (TickRecord.ofValues pair.1 pair.2 amounts.1 amounts.2)
          let next ← Action.lift (request.direction.advance pair.2)
          pure (some (record, next))) := by
      rw [Action.onFirst_bind]
      refine bind_congr fun record => ?_
      rw [Action.onFirst_bind]
      rfl
    by_cases hfree : (!pair.1.truthy) = true
    · rw [if_pos hfree, if_pos hfree, Action.onFirst_bind, Action.onFirst_log, hrecorded]
    · rw [if_neg hfree, if_neg hfree, hrecorded]

lemma walk_noting (left found : Nat) (cursor : Value) :
    walk ⟨p.noting, domain⟩ request left found cursor =
      Action.onFirst (walk ⟨p, domain⟩ request left found cursor) := by
  induction left generalizing found cursor with
  | zero => rfl
  | succ left ih =>
    rw [walk_succ, walk_succ, Action.onFirst_bind, visit_noting]
    refine bind_congr fun visited => ?_
    cases visited with
    | none => rfl
    | some hit =>
      simp only [ih, Action.onFirst_bind]
      rfl

/-- A walk that returns is followed by a version read, which tells the version of the result and after
which nothing is asked; one that fails tells none. -/
lemma tells_follow (s : σ) :
    (∃ e, ((follow ⟨p, domain⟩ request).run s).result = .error e ∧
      (follow ⟨p.noting, domain⟩ request).Tells (follow ⟨p, domain⟩ request) s []) ∨
    ∃ result, ((follow ⟨p, domain⟩ request).run s).result = .ok result ∧
      (follow ⟨p.noting, domain⟩ request).Tells (follow ⟨p, domain⟩ request) s [result.version] ∧
      ((follow ⟨p, domain⟩ request).run s).EndsWithVersion p request.snapshot result.version := by
  unfold follow
  rw [walk_noting]
  have hwalk := Action.tells_onFirst
    (walk ⟨p, domain⟩ request request.maxSteps 0 (.int request.start)) s
  cases hrun : (walk ⟨p, domain⟩ request request.maxSteps 0 (.int request.start)).run s with
  | mk result t before =>
    cases result with
    | error e =>
      refine .inl ⟨e, ?_, hwalk.bind_error hrun _ _⟩
      rw [Action.run_bind_of_error hrun]
    | ok records =>
      rcases p.tells_version request.snapshot t with ⟨e, u, events, hversion, htells⟩ |
        ⟨v, u, events, hversion, htells⟩
      · refine .inl ⟨e, ?_, hwalk.bind hrun (htells.bind_error hversion _ _)⟩
        rw [Action.run_bind_of_ok hrun, Action.run_bind_of_error hversion]
      · refine .inr ⟨ScanResult.padded request.maxSteps records v request.direction, ?_,
          hwalk.bind hrun (htells.bind hversion fun noted => ?_), ?_⟩
        · rw [Action.run_bind_of_ok hrun, Action.run_bind_of_ok hversion]
          rfl
        · rw [List.append_nil]
          rfl
        · rw [Action.run_bind_of_ok hrun, Action.run_bind_of_ok hversion]
          exact ⟨t, before, events, _, hversion, (List.append_assoc _ _ _).symm, rfl⟩

/-- A scan that returns tells the version of its result, after which it asks nothing; one that fails
tells none. -/
theorem tells_scan (form : RequestForm) (s : σ) :
    (∃ e, ((scan ⟨p, domain⟩ form).run s).result = .error e ∧
      (scan ⟨p.noting, domain⟩ form).Tells (scan ⟨p, domain⟩ form) s []) ∨
    ∃ result, ((scan ⟨p, domain⟩ form).run s).result = .ok result ∧
      (scan ⟨p.noting, domain⟩ form).Tells (scan ⟨p, domain⟩ form) s [result.version] ∧
      ((scan ⟨p, domain⟩ form).run s).EndsWithVersion p form.snapshot result.version := by
  rw [scan_eq, scan_eq]
  cases hready : form.ready domain with
  | error e => exact .inl ⟨e, rfl, Action.tells_onFirst (Action.lift (.error e)) s⟩
  | ok request =>
    obtain ⟨rfl, -, -⟩ := RequestForm.check_eq_ok_iff.mp (RequestForm.check_of_ready hready).1
    exact tells_follow p domain request s

end Scanner

end TickWalk
