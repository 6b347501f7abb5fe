/-!
# Binary floating-point numbers, seen exactly

A `Parts` is what a binary64 word stands for: not a number, an infinity, or a sign with
`mantissa * 2 ^ exponent`. Comparison and truncation are exact, so that whole numbers and floats of
any size can be set against each other.
-/

namespace TickWalk.Decimal

/-- The meaning of a binary64 word. -/
inductive Parts
  | nan
  | infinite (negative : Bool)
  | finite (negative : Bool) (mantissa : Nat) (exponent : Int)
deriving DecidableEq

namespace Parts

/-- Reads sign, exponent and fraction; an exponent field of zero has no hidden bit. -/
def ofBits (w : UInt64) : Parts :=
  let negative := w >>> 63 == 1
  let field := ((w >>> 52) &&& 0x7ff).toNat
  let fraction := (w &&& 0xfffffffffffff).toNat
  if field = 0x7ff then
    if fraction = 0 then infinite negative else nan
  else if field = 0 then finite negative fraction (-1074)
  else finite negative (fraction + Nat.pow 2 52) ((field : Int) - 1075)

def ofFloat (f : Float) : Parts := ofBits f.toBits

def ofInt (i : Int) : Parts := finite (i < 0) i.natAbs 0

/-- The integer left when the fraction is dropped; only finite numbers have one. -/
def truncate? : Parts → Option Int
  | finite negative m e =>
    let size : Nat := if 0 ≤ e then m * Nat.pow 2 e.toNat else m / Nat.pow 2 (-e).toNat
    some (if negative then -size else size)
  | _ => none

/-- The signed mantissa at a common exponent `base ≤ e`. -/
def scaledTo (base : Int) (negative : Bool) (m : Nat) (e : Int) : Int :=
  let size : Nat := m * Nat.pow 2 (e - base).toNat
  if negative then -size else size

/-- Exact order; not-a-number is in no order with anything. -/
def compare? : Parts → Parts → Option Ordering
  | nan, _ => none
  | _, nan => none
  | infinite true, infinite true => some .eq
  | infinite false, infinite false => some .eq
  | infinite true, _ => some .lt
  | infinite false, _ => some .gt
  | _, infinite true => some .gt
  | _, infinite false => some .lt
  | finite s m e, finite s' m' e' =>
    let base := min e e'
    some (compare (scaledTo base s m e) (scaledTo base s' m' e'))

/-- Zero of either sign is the only finite number that counts as nothing. -/
def isZero : Parts → Bool
  | finite _ m _ => m == 0
  | _ => false

/-- Whether `i` is a whole multiple of a finite number. -/
def divides (p : Parts) (i : Int) : Bool :=
  match p with
  | finite _ m e =>
    if 0 ≤ e then i % (m * Nat.pow 2 e.toNat : Nat) == 0
    else (i * (Nat.pow 2 (-e).toNat : Nat)) % (m : Int) == 0
  | infinite _ => i == 0
  | nan => false

end Parts

end TickWalk.Decimal
