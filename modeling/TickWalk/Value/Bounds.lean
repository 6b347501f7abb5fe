import TickWalk.Value.Number

/-!
# Loose ticks and bounds

Whether a loose number lies in a domain. The upper bound is looked at only when the lower one is
respected.
-/

namespace TickWalk.KeyDomain

def covers (d : KeyDomain) (tick : Value) : Except Failure Bool := do
  if ← (Value.int d.minKey).atMost tick then tick.atMost (.int d.maxKey) else .ok false

def admits (d : KeyDomain) (tick : Value) : Except Failure Bool := do
  if ← (Value.int d.minKey).less tick then tick.less (.int d.maxKey) else .ok false

@[simp] theorem covers_int (d : KeyDomain) (tick : Int) :
    d.covers (.int tick) = .ok (d.contains tick) := by
  by_cases h : d.minKey ≤ tick <;> simp [covers, contains, h, bind, Except.bind]

@[simp] theorem admits_int (d : KeyDomain) (tick : Int) :
    d.admits (.int tick) = .ok (d.strictlyInside tick) := by
  by_cases h : d.minKey < tick <;> simp [admits, strictlyInside, h, bind, Except.bind]

end TickWalk.KeyDomain
