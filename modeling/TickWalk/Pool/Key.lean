import TickWalk.Pool.Address
import TickWalk.Pool.Identifier
import TickWalk.Value.Equality
import TickWalk.Value.Number

/-!
# Pool keys

A pool is keyed by its two currencies in ascending order, its fee, its tick spacing and its hooks.
The identifier of a pool is the hash of the encoded key. Fee and spacing are compared as numbers of
any kind, and only integers can be encoded.
-/

namespace TickWalk

structure PoolKey where
  currency0 : Address
  currency1 : Address
  fee : Value
  spacing : Value
  hooks : Address

namespace PoolKey

/-- The fee that marks a pool whose fee may change. -/
def dynamicFee : Int := 0x800000

def maxFee : Int := 1000000

def maxSpacing : Int := 32767

def address (casing : Casing) (name : String) (given : Value) : Except Failure Address :=
  match Address.ofValue? casing given with
  | some a => .ok a
  | none => Failure.refuse (.badAddress name given)

def between (low : Int) (v : Value) (high : Int) : Except Failure Bool := do
  if ← (Value.int low).atMost v then v.atMost (.int high) else .ok false

/-- A fee is the mark of a dynamic fee, or is in range. -/
def feeAllowed (fee : Value) : Except Failure Bool :=
  if fee.same (.int dynamicFee) then .ok true else between 0 fee maxFee

/-- A key from what a caller gives; addresses, order, fee and spacing are checked in this order. -/
def ofSpellings (casing : Casing) (currency0 currency1 fee spacing hooks : Value) :
    Except Failure PoolKey := do
  let currency0 ← address casing "currency0" currency0
  let currency1 ← address casing "currency1" currency1
  let hooks ← address casing "hooks" hooks
  if currency1.number ≤ currency0.number then .error .currencyOrder
  else if !(← feeAllowed fee) then Failure.refuse (.badFee fee)
  else if !(← between 1 spacing maxSpacing) then Failure.refuse (.badSpacing spacing)
  else .ok ⟨currency0, currency1, fee, spacing, hooks⟩

/-- A key whose addresses are given in letters of any case. -/
def ofValues (currency0 currency1 fee spacing hooks : Value) : Except Failure PoolKey :=
  ofSpellings .free currency0 currency1 fee spacing hooks

def integerWord (fits : Int → Bool) : Value → Except Failure (List UInt8)
  | .int i => if fits i then .ok (Abi.signedWord i) else .error .argumentOutOfRange
  | _ => .error .notEncodable

/-- The five words of a key; a fee has 24 bits, and a spacing 24 with its sign. -/
def encode (k : PoolKey) : Except Failure (List UInt8) := do
  let fee ← integerWord (Abi.fitsUnsigned 24) k.fee
  let spacing ← integerWord (Abi.fits 24) k.spacing
  .ok (Abi.word k.currency0.number ++ Abi.word k.currency1.number ++ fee ++ spacing ++
    Abi.word k.hooks.number)

def identifier (k : PoolKey) : Except Failure PoolId := do
  PoolId.ofBytes (Hash.keccak256 (← k.encode))

end PoolKey

end TickWalk
