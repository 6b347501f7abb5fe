import TickWalk.Proofs.Action

/-!
# Reads in a trace

`reads` keeps of a trace what was asked of a provider. `Action.Runs` says how one run of an action
goes: what it asks, how it ends and which state it leaves. The run of a sequence is put together from
the runs of its parts, and a failure ends it.
-/

namespace TickWalk

/-- The question to a provider that an event notes. -/
def Event.read? : Event → Option Read
  | .read r => some r
  | _ => none

def reads (events : List Event) : List Read := events.filterMap Event.read?

lemma reads_append (before after : List Event) :
    reads (before ++ after) = reads before ++ reads after := List.filterMap_append

variable {σ α β : Type}

namespace Action

/-- From the state `s` the action asks `asked`, ends with the result `r` and leaves the state `t`. -/
structure Runs (x : Action σ α) (s : σ) (asked : List Read) (r : Except Failure α) (t : σ) :
    Prop where
  result : (x.run s).result = r
  reads : reads (x.run s).events = asked
  state : (x.run s).state = t

/-- From the state `s` the action answers `a` and leaves the state `t`. -/
structure Gives (x : Action σ α) (s : σ) (a : α) (t : σ) : Prop where
  result : (x.run s).result = .ok a
  state : (x.run s).state = t

/-- From the state `s` the action fails with `e` and leaves the state `t`. -/
structure Raises (x : Action σ α) (s : σ) (e : Failure) (t : σ) : Prop where
  result : (x.run s).result = .error e
  state : (x.run s).state = t

variable {x : Action σ α} {f : α → Action σ β} {s t u : σ} {a : α} {r : Except Failure β}
  {e : Failure} {asked asked' : List Read}

lemma exists_run {r : Except Failure α} (h : (x.run s).result = r) :
    ∃ t events, x.run s = ⟨r, t, events⟩ := by
  subst h
  exact ⟨_, _, rfl⟩

lemma runs_pure (a : α) (s : σ) : (pure a : Action σ α).Runs s [] (.ok a) s := ⟨rfl, rfl, rfl⟩

lemma runs_log (level : Journal.Level) (source text : String) (s : σ) :
    (log level source text).Runs s [] (.ok ()) s := ⟨rfl, rfl, rfl⟩

lemma runs_note (q : Read) (s : σ) : (note (.read q)).Runs s [q] (.ok ()) s := ⟨rfl, rfl, rfl⟩

lemma Runs.bind (hx : x.Runs s asked (.ok a) t) (hf : (f a).Runs t asked' r u) :
    (x >>= f).Runs s (asked ++ asked') r u := by
  obtain ⟨hr, hq, hs⟩ := hx
  cases hrun : x.run s with
  | mk result state before =>
    simp only [hrun] at hr hq hs
    subst hr hq hs
    constructor <;> rw [run_bind_of_ok hrun]
    · exact hf.result
    · rw [reads_append, hf.reads]
    · exact hf.state

lemma Runs.bind_silent (hx : x.Runs s asked (.ok a) t) (hf : (f a).Runs t [] r u) :
    (x >>= f).Runs s asked r u := by
  have hboth := hx.bind hf
  rwa [List.append_nil] at hboth

lemma Runs.bind_error (hx : x.Runs s asked (.error e) t) (f : α → Action σ β) :
    (x >>= f).Runs s asked (.error e) t := by
  obtain ⟨hr, hq, hs⟩ := hx
  cases hrun : x.run s with
  | mk result state before =>
    simp only [hrun] at hr hq hs
    subst hr hq hs
    constructor <;> rw [run_bind_of_error hrun]

end Action

end TickWalk
