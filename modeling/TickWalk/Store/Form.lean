import TickWalk.Store.Basic
import TickWalk.Value.Items

/-!
# Commit forms

A `CommitForm` is what a caller hands in: its liquidity may be no map at all, and what stands under a
tick may be no pair. `Store.submit` takes the entries apart one after the other, each with its checks,
and commits the ticks that they make up.
-/

namespace TickWalk

/-- A commit as handed in: the entries of a map, whose ticks all differ, or what was given instead. -/
structure CommitForm where
  liquidity : Except Value (List (Value × Value))
  version : Value
  spacing : Value
  handle : Value

def Commit.form (c : Commit) : CommitForm :=
  ⟨.ok (c.ticks.map fun t => (t.tick, .list [t.gross, t.net])), c.version, c.spacing, c.handle⟩

def CommitForm.name (form : CommitForm) : Value :=
  Commit.name ⟨[], form.version, form.spacing, form.handle⟩

namespace Store

/-- Takes an entry apart and checks its tick. -/
def readEntry (d : KeyDomain) (entry : Value × Value) : Except Failure LooseTick := do
  let amounts ← entry.2.pair
  let t : LooseTick := ⟨entry.1, amounts.1, amounts.2⟩
  checkTick d t
  .ok t

def readForm (d : KeyDomain) (form : CommitForm) : Except Failure Commit := do
  if ← form.spacing.atMost (.int 0) then Failure.refuse (.spacingNotPositive form.spacing)
  else
    match form.liquidity with
    | .error given =>
      .error (.raised "AttributeError" s!"'{given.kindName}' object has no attribute 'items'")
    | .ok entries =>
      let ticks ← entries.mapM (readEntry d)
      .ok ⟨ticks, form.version, form.spacing, form.handle⟩

def submit (form : CommitForm) : Action Store Value := do
  let s ← Action.get
  let c ← Action.lift (readForm s.domain form)
  commit c

end Store

end TickWalk
