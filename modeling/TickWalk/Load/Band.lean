import TickWalk.Scan.Record

/-!
# Tick bands

A band holds the ticks on both sides of the active one, each side from the nearest tick outward.
-/

namespace TickWalk

structure TickBand where
  current : Value
  below : List TickRecord
  above : List TickRecord
  version : Value

structure LooseBand where
  current : Value
  below : List LooseRecord
  above : List LooseRecord
  version : Value

namespace TickBand

def ticks (b : TickBand) : List TickRecord := b.below.reverse ++ b.above

def loose (b : TickBand) : LooseBand :=
  ⟨b.current, b.below.map TickRecord.loose, b.above.map TickRecord.loose, b.version⟩

end TickBand

namespace LooseBand

def ticks (b : LooseBand) : List LooseRecord := b.below.reverse ++ b.above

/-- Replaces the record under an equal tick, which keeps its spelling, or appends a new one. -/
def put (entries : List (Value × LooseRecord)) (r : LooseRecord) : List (Value × LooseRecord) :=
  match entries with
  | [] => [(r.tick, r)]
  | (tick, q) :: rest => if tick.same r.tick then (tick, r) :: rest else (tick, q) :: put rest r

/-- The initialized records by tick: of several at one tick the last in the order of `ticks`. -/
def initialized (b : LooseBand) : Except Failure (List (Value × LooseRecord)) :=
  let flagged := b.ticks.filter (·.initialized.truthy)
  if flagged.all (·.tick.isKey) then .ok (flagged.foldl put []) else .error .wrongKind

end LooseBand

end TickWalk
