import TickWalk.Json.Write
import TickWalk.Load.Band
import TickWalk.Scan.Result

/-!
# Documents of results and bands

A result or a band as a map of plain values. Liquidity that a double cannot hold exactly is written
as decimal text, so that a reader with doubles loses nothing.
-/

namespace TickWalk

namespace Document

/-- Every integer up to this size is a double. -/
def safeInteger : Nat := Nat.pow 2 53

/-- A number, as text when it is larger than a double can hold exactly. -/
def amount : Value → Except Failure Value
  | .int i =>
    if safeInteger < i.natAbs then do .ok (.text (← Value.integerText i)) else .ok (.int i)
  | .bool b => .ok (.bool b)
  | .float f =>
    if (Decimal.Parts.ofFloat f.abs).compare? (.ofInt safeInteger) == some .gt then
      .ok (.text (Decimal.floatText f))
    else .ok (.float f)
  | _ => .error .wrongKind

end Document

def LooseRecord.document (r : LooseRecord) : Except Failure Value := do
  let gross ← Document.amount r.gross
  let net ← Document.amount r.net
  .ok (.map [
    ("initialized", r.initialized), ("tick", r.tick), ("liquidityGross", gross),
    ("liquidityNet", net)])

def LooseResult.document (r : LooseResult) : Except Failure Value := do
  let ticks ← r.ticks.mapM LooseRecord.document
  .ok (.map [
    ("ticks", .list ticks), ("validTo", r.validTo), ("blockNumber", r.version),
    ("direction", .text r.direction.name)])

def LooseBand.document (b : LooseBand) : Except Failure Value := do
  let below ← b.below.mapM LooseRecord.document
  let above ← b.above.mapM LooseRecord.document
  .ok (.map [
    ("currentTick", b.current), ("blockNumber", b.version), ("below", .list below),
    ("above", .list above)])

def ScanResult.document (r : ScanResult) : Except Failure Value := r.loose.document

def TickBand.document (b : TickBand) : Except Failure Value := b.loose.document

def LooseResult.json (layout : Json.Layout) (r : LooseResult) : Except Failure String := do
  Json.write layout (← r.document)

end TickWalk
