import TickWalk.Bitmap.Search
import TickWalk.Provider
import TickWalk.Store.Basic

/-!
# Reading the store

A store answers a search in one of two ways: inside one bitmap word, where the answer may be the
edge of the word, or with the nearest tick of the snapshot, where the answer is a bound of the
domain when there is none. Reads never change the store.
-/

namespace TickWalk.Store

/-- How many of the ascending ticks are not above a loose cursor. -/
def notAbove (ticks : List Int) (cursor : Value) : Except Failure Nat := do
  let above ← ticks.mapM fun t => cursor.less (.int t)
  .ok (above.takeWhile (!·)).length

/-- The nearest tick at or below the cursor, or above it. -/
def nearest (d : KeyDomain) (ticks : List Int) (cursor : Value) (direction : Direction) :
    Except Failure (Bool × Int) := do
  let n ← notAbove ticks cursor
  match direction with
  | .inclusive =>
    match (ticks.take n).getLast? with
    | some t => .ok (true, t)
    | none => .ok (false, d.minKey)
  | .exclusive =>
    match ticks[n]? with
    | some t => .ok (true, t)
    | none => .ok (false, d.maxKey)

/-- The search in one snapshot, for a spacing that equals its own. -/
def findIn (s : Store) (snapshot : Snapshot) (cursor : Value) (direction : Direction)
    (spacing : Value) : Except Failure (Bool × Int) := do
  if s.withinOneWord then
    Bitmap.search (fun number => .ok (snapshot.words.get number)) direction spacing cursor
  else nearest s.domain snapshot.sortedTicks cursor direction

def find (s : Store) (handle cursor : Value) (direction : Direction) (spacing : Value) :
    Except Failure (Bool × Int) := do
  let snapshot ← s.snapshot handle
  if spacing.same snapshot.spacing then s.findIn snapshot cursor direction spacing
  else Failure.refuse (.spacingMismatch handle snapshot.spacing spacing)

/-- The liquidity of a snapshot at a loose tick; nothing is stored where no tick is. -/
def liquidityAt (snapshot : Snapshot) (tick : Value) : Except Failure Liquidity :=
  if tick.isKey then
    .ok (((snapshot.liquidity.find? fun e => (Value.int e.1).same tick).map (·.2)).getD ⟨0, 0⟩)
  else .error .wrongKind

def fetch (s : Store) (handle tick : Value) : Except Failure Liquidity := do
  liquidityAt (← s.snapshot handle) tick

def version (s : Store) (handle : Value) : Except Failure Value := do
  .ok (← s.snapshot handle).version

def provider : Provider Store where
  answerFind handle cursor direction spacing := do
    let s ← Action.get
    let (initialized, tick) ← Action.lift (s.find handle cursor direction spacing)
    pure (.list [.bool initialized, .int tick])
  answerFetch handle tick := do
    let s ← Action.get
    let l ← Action.lift (s.fetch handle tick)
    pure (.list [.int l.gross, .int l.net])
  answerVersion handle := do
    let s ← Action.get
    Action.lift (s.version handle)

end TickWalk.Store
