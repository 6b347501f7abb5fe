import TickWalk.Action
import TickWalk.Store.Snapshot
import TickWalk.Value.Bounds

/-!
# The snapshot store

Snapshots are committed under a handle and never change afterwards. Handles are compared as values,
so that `1`, `1.0` and `true` are one handle. A handle that is not equal to itself, not-a-number, is told
apart here from every handle, also from the very object that was committed under; a table of objects finds
that one object again. A commit that fails leaves the store as it was.
-/

namespace TickWalk

structure Store where
  domain : KeyDomain
  withinOneWord : Bool
  snapshots : List (Value × Snapshot)

/-- What a caller wants to commit; the version serves as handle unless one is given. -/
structure Commit where
  ticks : List LooseTick
  version : Value
  spacing : Value
  handle : Value

namespace Store

def source : String := "ticklens.helpers.memory_state"

def empty (domain : KeyDomain) (withinOneWord : Bool) : Store := ⟨domain, withinOneWord, []⟩

/-- The snapshot under a handle; values that cannot name anything are refused. -/
def lookup? (s : Store) (handle : Value) : Except Failure (Option Snapshot) :=
  if handle.isKey then .ok ((s.snapshots.find? (·.1.same handle)).map (·.2))
  else .error .wrongKind

def snapshot (s : Store) (handle : Value) : Except Failure Snapshot := do
  match ← s.lookup? handle with
  | some snapshot => .ok snapshot
  | none => Failure.refuse (.unknownSnapshot handle)

/-- A tick of a commit has to be in the domain, and its gross liquidity not negative. -/
def checkTick (d : KeyDomain) (t : LooseTick) : Except Failure Unit := do
  if !(← d.covers t.tick) then Failure.refuse (.tickOutside t.tick d)
  else if ← t.gross.less (.int 0) then Failure.refuse (.negativeGross t.tick)
  else .ok ()

end Store

namespace Commit

def name (c : Commit) : Value :=
  match c.handle with
  | .null => c.version
  | handle => handle

end Commit

namespace Store

/-- The snapshot that a commit would add. -/
def prepare (s : Store) (c : Commit) : Except Failure Snapshot := do
  let ticks ← LooseTick.distinct c.ticks
  if ← c.spacing.atMost (.int 0) then Failure.refuse (.spacingNotPositive c.spacing)
  else
    ticks.forM (checkTick s.domain)
    match ← s.lookup? c.name with
    | some _ => Failure.refuse (.duplicateSnapshot c.name)
    | none =>
      let entries ← Snapshot.freeze ticks
      Snapshot.ofLiquidity c.version c.spacing entries

def commit (c : Commit) : Action Store Value := do
  let s ← Action.get
  let snapshot ← Action.lift (s.prepare c)
  Action.set { s with snapshots := s.snapshots ++ [(c.name, snapshot)] }
  Action.log .debug source
    (s!"Committed snapshot {c.name.inspect} (version {c.version.display}, " ++
      s!"{snapshot.liquidity.length} ticks)")
  pure c.name

end Store

end TickWalk
