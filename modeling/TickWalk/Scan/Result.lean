import TickWalk.Direction
import TickWalk.Scan.Record

/-!
# Scan results

A result has one slot for every step that was allowed; the first `validTo` slots are filled. A
`LooseResult` is one that nobody has checked, so that its views may fail: `validTo` may point
outside the slots or be no number at all.
-/

namespace TickWalk

structure ScanResult where
  ticks : List TickRecord
  validTo : Nat
  version : Value
  direction : Direction

structure LooseResult where
  ticks : List LooseRecord
  validTo : Value
  version : Value
  direction : Direction

namespace ScanResult

def validTicks (r : ScanResult) : List TickRecord := r.ticks.take r.validTo

def exhausted (r : ScanResult) : Bool := r.validTo < r.ticks.length

def lastTick? (r : ScanResult) : Option Int :=
  if r.validTo = 0 then none else r.ticks[r.validTo - 1]?.map (·.tick)

def loose (r : ScanResult) : LooseResult :=
  ⟨r.ticks.map TickRecord.loose, .int r.validTo, r.version, r.direction⟩

end ScanResult

/-- The place that an index means in a list of `size` items; a negative one counts from the end. -/
def placeOf? (size : Nat) (index : Int) : Option Nat :=
  let i := if index < 0 then index + size else index
  if 0 ≤ i && i < size then some i.toNat else none

/-- How many items of a list of `size` come before an end; a negative end counts from the end of
the list. -/
def upTo (size : Nat) (stop : Int) : Nat :=
  min size (if stop < 0 then stop + size else stop).toNat

namespace LooseResult

/-- The slots before `validTo`; all of them when there is none. -/
def validTicks (r : LooseResult) : Except Failure (List LooseRecord) :=
  match r.validTo with
  | .null => .ok r.ticks
  | v =>
    match v.whole? with
    | some n => .ok (r.ticks.take (upTo r.ticks.length n))
    | none => .error .wrongKind

def exhausted (r : LooseResult) : Except Failure Bool := r.validTo.less (.int r.ticks.length)

/-- The tick of the slot before `validTo`, and nothing when `validTo` is zero. -/
def lastTick (r : LooseResult) : Except Failure Value :=
  if r.validTo.same (.int 0) then .ok .null
  else
    match r.validTo.whole? with
    | none => .error .wrongKind
    | some n =>
      match placeOf? r.ticks.length (n - 1) with
      | none => .error .indexOutOfRange
      | some i => .ok ((r.ticks[i]?.map (·.tick)).getD .null)

def same (a b : LooseResult) : Bool :=
  a.ticks.length == b.ticks.length && (a.ticks.zip b.ticks).all (fun p => p.1.same p.2) &&
    a.validTo.same b.validTo && a.version.same b.version

end LooseResult

end TickWalk
