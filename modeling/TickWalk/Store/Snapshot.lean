import TickWalk.Bitmap.Position
import TickWalk.Value.Equality
import TickWalk.Value.Integer
import TickWalk.Value.Number

/-!
# Snapshots

A snapshot freezes the liquidity of a pool under three indexes: the bitmap words, the liquidity by
tick, and the ticks in ascending order. The ticks of a commit come as loose values; a tick given
twice keeps its first place and its last liquidity.
-/

namespace TickWalk

structure Liquidity where
  gross : Int
  net : Int
deriving DecidableEq, Inhabited

structure LooseTick where
  tick : Value
  gross : Value
  net : Value

structure Snapshot where
  version : Value
  spacing : Value
  words : Words
  liquidity : Keyed Liquidity
  sortedTicks : List Int

namespace LooseTick

def put (ticks : List LooseTick) (t : LooseTick) : List LooseTick :=
  match ticks with
  | [] => [t]
  | u :: rest => if u.tick.same t.tick then ⟨u.tick, t.gross, t.net⟩ :: rest else u :: put rest t

/-- Each tick once, in the order of its first mention. -/
def distinct (ticks : List LooseTick) : Except Failure (List LooseTick) :=
  if ticks.all (·.tick.isKey) then .ok (ticks.foldl put []) else .error .wrongKind

end LooseTick

namespace Snapshot

/-- Whether a whole multiple of the spacing is at `tick`; a spacing with a fraction counts as the
number it is. -/
def aligned (spacing : Value) (tick : Int) : Except Failure Bool :=
  match spacing.whole? with
  | some s => if s = 0 then .error .divisionByZero else .ok (tick.fmod s = 0)
  | none =>
    match spacing with
    | .float f =>
      let nearest := (Decimal.Parts.ofFloat (Float.ofInt tick)).truncate?.getD tick
      .ok ((Decimal.Parts.ofFloat f).divides nearest)
    | _ => .error .wrongKind

/-- Adds a tick to the words of a loose spacing, which has to be a whole number. -/
def addTick (spacing : Value) (words : Words) (tick : Int) : Except Failure Words := do
  if ← aligned spacing tick then
    match spacing.whole? with
    | some s => .ok (words.mark (Bitmap.position (tick.fdiv s)))
    | none => .error .wrongKind
  else Failure.refuse (.misaligned tick spacing)

def freeze (ticks : List LooseTick) : Except Failure (Keyed Liquidity) :=
  ticks.foldlM add []
where
  /-- Adds one tick; one that is the same number replaces it. -/
  add (entries : Keyed Liquidity) (t : LooseTick) : Except Failure (Keyed Liquidity) := do
    let tick ← t.tick.toInteger
    let gross ← t.gross.toInteger
    let net ← t.net.toInteger
    .ok (entries.put tick ⟨gross, net⟩)

/-- All three indexes from the same entries. -/
def ofLiquidity (version spacing : Value) (entries : Keyed Liquidity) : Except Failure Snapshot := do
  let words ← (entries.map (·.1)).foldlM (addTick spacing) []
  .ok ⟨version, spacing, words, entries, (entries.map (·.1)).mergeSort⟩

end Snapshot

end TickWalk
