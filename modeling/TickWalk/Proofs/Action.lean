import TickWalk.Action
import Mathlib.Tactic.Lemma

/-!
# Actions that answer and change nothing

Reading a store is an action that answers a value and leaves the state as it was. Such actions
compose, so that what a longer action answers can be computed step by step.
-/

namespace TickWalk

variable {σ α β : Type}

lemma exists_of_bind_ok {ε : Type} {x : Except ε α} {f : α → Except ε β} {b : β}
    (h : (x >>= f) = .ok b) : ∃ a, x = .ok a ∧ f a = .ok b := by
  cases x with
  | error e => cases h
  | ok a => exact ⟨a, rfl, h⟩

lemma error_or_of_bind_error {ε : Type} {x : Except ε α} {f : α → Except ε β} {e : ε}
    (h : (x >>= f) = .error e) : x = .error e ∨ ∃ a, x = .ok a ∧ f a = .error e := by
  cases x with
  | error e' =>
    obtain rfl := Except.error.inj h
    exact .inl rfl
  | ok a => exact .inr ⟨a, rfl, h⟩

lemma ok_bind {ε : Type} (a : α) (f : α → Except ε β) : ((.ok a : Except ε α) >>= f) = f a := rfl

namespace Action

lemma map_id (x : Action σ α) : (x >>= fun a => pure a) = x := by
  funext s
  change (x >>= fun a => pure a).run s = x s
  cases h : x.run s with
  | mk result state events =>
    cases result with
    | ok a =>
      rw [run_bind_of_ok h, run_pure, List.append_nil]
      exact h.symm
    | error e =>
      rw [run_bind_of_error h]
      exact h.symm

lemma bind_bind {γ : Type} (x : Action σ α) (f : α → Action σ β) (g : β → Action σ γ) :
    (x >>= f >>= g) = (x >>= fun a => f a >>= g) := by
  funext s
  change (x >>= f >>= g).run s = (x >>= fun a => f a >>= g).run s
  cases hx : x.run s with
  | mk result state before =>
    cases result with
    | error e =>
      rw [run_bind_of_error hx, run_bind_of_error (run_bind_of_error hx)]
    | ok a =>
      rw [run_bind_of_ok hx]
      cases hf : (f a).run state with
      | mk result' state' after =>
        have hxf := run_bind_of_ok (f := f) hx
        rw [hf] at hxf
        cases result' with
        | error e => rw [run_bind_of_error hxf, run_bind_of_error hf]
        | ok b => rw [run_bind_of_ok hxf, run_bind_of_ok hf, List.append_assoc]

instance : LawfulMonad (Action σ) :=
  LawfulMonad.mk' (Action σ) map_id (fun _ _ => rfl) bind_bind

lemma lift_ok_bind (a : α) (f : α → Action σ β) : (lift (.ok a) >>= f) = f a := rfl

lemma lift_error_bind (e : Failure) (f : α → Action σ β) :
    (lift (.error e) >>= f) = lift (.error e) := rfl

/-- From the state `s` the action answers `a` and leaves the state as it was. -/
structure Yields (x : Action σ α) (s : σ) (a : α) : Prop where
  result : (x.run s).result = .ok a
  state : (x.run s).state = s

/-- From the state `s` the action fails and leaves the state as it was. -/
structure Fails (x : Action σ α) (s : σ) (e : Failure) : Prop where
  result : (x.run s).result = .error e
  state : (x.run s).state = s

variable {x : Action σ α} {f : α → Action σ β} {s : σ} {a : α} {b : β} {e : Failure}

lemma yields_pure (a : α) (s : σ) : (pure a : Action σ α).Yields s a := ⟨rfl, rfl⟩

lemma yields_lift (a : α) (s : σ) : (lift (.ok a)).Yields s a := ⟨rfl, rfl⟩

lemma yields_get (s : σ) : (get : Action σ σ).Yields s s := ⟨rfl, rfl⟩

lemma yields_note (event : Event) (s : σ) : (note event).Yields s () := ⟨rfl, rfl⟩

lemma yields_log (level : Journal.Level) (source text : String) (s : σ) :
    (log level source text).Yields s () := ⟨rfl, rfl⟩

lemma fails_lift (e : Failure) (s : σ) : (lift (.error e) : Action σ α).Fails s e := ⟨rfl, rfl⟩

lemma Yields.bind (hx : x.Yields s a) (hf : (f a).Yields s b) : (x >>= f).Yields s b := by
  obtain ⟨hr, hs⟩ := hx
  cases hrun : x.run s with
  | mk result state before =>
    simp only [hrun] at hr hs
    subst hr hs
    constructor <;> rw [run_bind_of_ok hrun]
    · exact hf.result
    · exact hf.state

lemma Yields.bind_fails (hx : x.Yields s a) (hf : (f a).Fails s e) : (x >>= f).Fails s e := by
  obtain ⟨hr, hs⟩ := hx
  cases hrun : x.run s with
  | mk result state before =>
    simp only [hrun] at hr hs
    subst hr hs
    constructor <;> rw [run_bind_of_ok hrun]
    · exact hf.result
    · exact hf.state

lemma Fails.bind (hx : x.Fails s e) (f : α → Action σ β) : (x >>= f).Fails s e := by
  obtain ⟨hr, hs⟩ := hx
  cases hrun : x.run s with
  | mk result state before =>
    simp only [hrun] at hr hs
    subst hr hs
    constructor <;> rw [run_bind_of_error hrun]

def Keeps (x : Action σ α) (s : σ) : Prop := (x.run s).state = s

lemma keeps_pure (a : α) (s : σ) : (pure a : Action σ α).Keeps s := rfl

lemma keeps_lift (r : Except Failure α) (s : σ) : (lift r).Keeps s := rfl

lemma keeps_log (level : Journal.Level) (source text : String) (s : σ) :
    (log level source text).Keeps s := rfl

/-- The action leaves the state `s` as it was, and every answer that it gives from there is one of `Q`. -/
structure Ensures (x : Action σ α) (s : σ) (Q : α → Prop) : Prop where
  state : x.Keeps s
  answer : ∀ a, (x.run s).result = .ok a → Q a

variable {Q : α → Prop} {R : β → Prop}

lemma Keeps.ensures (h : x.Keeps s) {P : Prop} (hP : P) : x.Ensures s fun _ => P := ⟨h, fun _ _ => hP⟩

lemma Ensures.imp {Q' : α → Prop} (h : x.Ensures s Q) (himp : ∀ a, Q a → Q' a) : x.Ensures s Q' :=
  ⟨h.state, fun a ha => himp a (h.answer a ha)⟩

lemma Yields.ensures (h : x.Yields s a) : x.Ensures s fun b => b = a := by
  refine ⟨h.state, fun b hb => ?_⟩
  rw [h.result] at hb
  exact (Except.ok.inj hb).symm

lemma ensures_pure (h : Q a) (s : σ) : (pure a : Action σ α).Ensures s Q :=
  ⟨rfl, fun _ hb => Except.ok.inj hb ▸ h⟩

lemma ensures_lift {r : Except Failure α} (h : ∀ a, r = .ok a → Q a) (s : σ) :
    (lift r).Ensures s Q :=
  ⟨rfl, h⟩

lemma Ensures.bind (hx : x.Ensures s Q) (hf : ∀ a, Q a → (f a).Ensures s R) :
    (x >>= f).Ensures s R := by
  obtain ⟨hs, hr⟩ := hx
  unfold Keeps at hs
  cases hrun : x.run s with
  | mk result state before =>
    rw [hrun] at hs hr
    subst hs
    cases result with
    | ok a =>
      have hfa := hf a (hr a rfl)
      constructor
      · unfold Keeps
        rw [run_bind_of_ok hrun]
        exact hfa.state
      · rw [run_bind_of_ok hrun]
        exact hfa.answer
    | error e =>
      constructor
      · unfold Keeps
        rw [run_bind_of_error hrun]
      · rw [run_bind_of_error hrun]
        intro b hb
        cases hb

lemma Keeps.bind_ensures (hx : x.Keeps s) (hf : ∀ a, (f a).Ensures s R) : (x >>= f).Ensures s R :=
  (hx.ensures trivial).bind fun a _ => hf a

lemma Keeps.bind (hx : x.Keeps s) (hf : ∀ a, (f a).Keeps s) : (x >>= f).Keeps s :=
  (hx.bind_ensures fun a => (hf a).ensures trivial).state

lemma Ensures.bind_of_keeps {P : Prop} (hx : x.Ensures s fun _ => P) (h : (x >>= f).Keeps s) :
    (x >>= f).Ensures s fun _ => P := by
  refine ⟨h, fun b hb => ?_⟩
  cases hrun : x.run s with
  | mk result state before =>
    cases result with
    | ok a => exact hx.answer a (congrArg Outcome.result hrun)
    | error e =>
      rw [run_bind_of_error hrun] at hb
      cases hb

end Action

end TickWalk
