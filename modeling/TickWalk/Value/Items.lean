import TickWalk.Failure

/-!
# Taking values apart

A list gives its items, a text its characters, bytes their numbers and a map its names.
`pair` accepts exactly two of them.
-/

namespace TickWalk.Value

def items : Value → Except Failure (List Value)
  | list vs => .ok vs
  | text s => .ok (s.toList.map fun c => .text (String.singleton c))
  | bytes b => .ok (b.map fun x => .int x.toNat)
  | buffer b => .ok (b.map fun x => .int x.toNat)
  | map fields => .ok (fields.map fun f => .text f.1)
  | _ => .error .wrongKind

def unpack (n : Nat) (v : Value) : Except Failure (List Value) := do
  let vs ← v.items
  if vs.length < n then .error (.tooFew n vs.length)
  else if n < vs.length then .error (.tooMany n)
  else .ok vs

def pair (v : Value) : Except Failure (Value × Value) := do
  match ← v.unpack 2 with
  | [a, b] => .ok (a, b)
  | vs => .error (.tooFew 2 vs.length)

@[simp] theorem pair_list (a b : Value) : pair (.list [a, b]) = .ok (a, b) := rfl

end TickWalk.Value
