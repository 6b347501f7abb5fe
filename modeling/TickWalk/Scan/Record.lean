import TickWalk.Value.Equality
import TickWalk.Value.Integer

/-!
# Tick records

One tick as a scan reports it. A `LooseRecord` has the same fields before anything is known about
them.
-/

namespace TickWalk

structure TickRecord where
  initialized : Bool
  tick : Int
  gross : Int
  net : Int
deriving DecidableEq, Inhabited

structure LooseRecord where
  initialized : Value
  tick : Value
  gross : Value
  net : Value

namespace TickRecord

/-- What a slot holds that no candidate has filled. -/
def empty : TickRecord := ⟨false, 0, 0, 0⟩

def ofValues (initialized tick gross net : Value) : Except Failure TickRecord := do
  let tick ← tick.toInteger
  let gross ← gross.toInteger
  let net ← net.toInteger
  .ok ⟨initialized.truthy, tick, gross, net⟩

def loose (r : TickRecord) : LooseRecord := ⟨.bool r.initialized, .int r.tick, .int r.gross, .int r.net⟩

@[simp] theorem ofValues_int (flag : Value) (tick gross net : Int) :
    ofValues flag (.int tick) (.int gross) (.int net) = .ok ⟨flag.truthy, tick, gross, net⟩ := rfl

end TickRecord

namespace LooseRecord

/-- Fields that are not given are those of the empty record; more than four are refused. -/
def ofList : List Value → Except Failure LooseRecord
  | [] => .ok TickRecord.empty.loose
  | [i] => .ok ⟨i, .int 0, .int 0, .int 0⟩
  | [i, t] => .ok ⟨i, t, .int 0, .int 0⟩
  | [i, t, g] => .ok ⟨i, t, g, .int 0⟩
  | [i, t, g, n] => .ok ⟨i, t, g, n⟩
  | _ => .error .wrongKind

def same (a b : LooseRecord) : Bool :=
  a.initialized.same b.initialized && a.tick.same b.tick && a.gross.same b.gross &&
    a.net.same b.net

end LooseRecord

end TickWalk
