import TickWalk.Failure
import TickWalk.Journal.Line

/-!
# Actions

An action runs over a state, answers or fails, and leaves a trace of events: what it asked of a
provider, what it read from the chain, and the lines it wrote to the journal. State and trace
survive a failure, so that the trace of a failed run shows how far it came.
-/

namespace TickWalk

/-- A question to a provider. -/
inductive Read
  | find (cursor : Value)
  | fetch (tick : Value)
  | version

/-- A question that reached the chain: a call with its arguments, sent to an endpoint unless the
contract is at hand. -/
structure ChainRead where
  endpoint : Option String
  call : String
  arguments : List Value

inductive Event
  | read (r : Read)
  | chain (r : ChainRead)
  | line (l : Journal.Line)

/-- How a run ended, the state it left, and what happened on the way. -/
structure Outcome (σ α : Type) where
  result : Except Failure α
  state : σ
  events : List Event

def Action (σ α : Type) := σ → Outcome σ α

namespace Action

variable {σ α β : Type}

def run (a : Action σ α) (s : σ) : Outcome σ α := a s

instance : Monad (Action σ) where
  pure a := fun s => ⟨.ok a, s, []⟩
  bind x f := fun s =>
    match x s with
    | ⟨.ok a, t, before⟩ =>
      let o := f a t
      ⟨o.result, o.state, before ++ o.events⟩
    | ⟨.error e, t, before⟩ => ⟨.error e, t, before⟩

/-- An answer or a failure that is known already. -/
def lift (r : Except Failure α) : Action σ α := fun s => ⟨r, s, []⟩

instance : MonadLift (Except Failure) (Action σ) := ⟨lift⟩

def fail (e : Failure) : Action σ α := lift (.error e)

def note (e : Event) : Action σ Unit := fun s => ⟨.ok (), s, [e]⟩

def log (level : Journal.Level) (source text : String) : Action σ Unit :=
  note (.line ⟨level, source, text⟩)

def get : Action σ σ := fun s => ⟨.ok s, s, []⟩

def set (s : σ) : Action σ Unit := fun _ => ⟨.ok (), s, []⟩

/-- The result of a run as a value; nothing fails any more. -/
def attempt (a : Action σ α) : Action σ (Except Failure α) := fun s =>
  let o := a s
  ⟨.ok o.result, o.state, o.events⟩

@[simp] theorem run_pure (a : α) (s : σ) : (pure a : Action σ α).run s = ⟨.ok a, s, []⟩ := rfl

@[simp] theorem run_lift (r : Except Failure α) (s : σ) : (lift r).run s = ⟨r, s, []⟩ := rfl

@[simp] theorem run_fail (e : Failure) (s : σ) : (fail e : Action σ α).run s = ⟨.error e, s, []⟩ :=
  rfl

@[simp] theorem run_note (e : Event) (s : σ) : (note e).run s = ⟨.ok (), s, [e]⟩ := rfl

@[simp] theorem run_get (s : σ) : (get : Action σ σ).run s = ⟨.ok s, s, []⟩ := rfl

@[simp] theorem run_set (s t : σ) : (set s).run t = ⟨.ok (), s, []⟩ := rfl

theorem run_bind (x : Action σ α) (f : α → Action σ β) (s : σ) :
    (x >>= f).run s =
      match x.run s with
      | ⟨.ok a, t, before⟩ =>
        ⟨((f a).run t).result, ((f a).run t).state, before ++ ((f a).run t).events⟩
      | ⟨.error e, t, before⟩ => ⟨.error e, t, before⟩ := rfl

theorem run_bind_of_ok {x : Action σ α} {f : α → Action σ β} {s t : σ} {a : α}
    {before : List Event} (h : x.run s = ⟨.ok a, t, before⟩) :
    (x >>= f).run s =
      ⟨((f a).run t).result, ((f a).run t).state, before ++ ((f a).run t).events⟩ := by
  rw [run_bind, h]

theorem run_bind_of_error {x : Action σ α} {f : α → Action σ β} {s t : σ} {e : Failure}
    {before : List Event} (h : x.run s = ⟨.error e, t, before⟩) :
    (x >>= f).run s = ⟨.error e, t, before⟩ := by
  rw [run_bind, h]

end Action

end TickWalk
