import TickWalk.Decimal.Scaled
import TickWalk.Failure
import TickWalk.Value.Number

/-!
# Prices

A tick stands for the price `1.0001 ^ tick`, to fifty significant digits. The power is worked out
with a few digits more: two and one for every digit of the exponent, and one more when the price is
below one.
-/

namespace TickWalk.Price

open Decimal

/-- The significant digits of a price. -/
def precision : Nat := 50

def base : Scaled := ⟨10001, -4⟩

def ofTick (tick : Int) : Scaled :=
  let working := precision + digitCount tick.natAbs + 2
  if tick < 0 then
    ((base.inverse (working + 1)).pow (working + 1) tick.natAbs).roundTo precision
  else (base.pow working tick.natAbs).roundTo precision

/-- The largest exponent that the first digit of a price may have, on either side of one. -/
def exponentLimit : Nat := 999999

/-- The place below which a price that is too small has no digits. -/
def leastPlace : Int := -(exponentLimit + precision - 1 : Nat)

/-- A price with an exponent within the limit. One that is too high is refused, and one that is too
low keeps the digits down to the least place. -/
def limited (price : Scaled) : Except Failure Scaled :=
  if (exponentLimit : Int) < price.adjusted then .error .priceTooHigh
  else if price.exponent < leastPlace then
    let excess := (leastPlace - price.exponent).toNat
    let kept := if digitCount price.coefficient < excess then 0
      else roundQuotient price.coefficient (Nat.pow 10 excess)
    .ok ⟨kept, leastPlace⟩
  else .ok price

/-- The price of a loose tick, which has to be a whole number. -/
def ofValue (tick : Value) : Except Failure Scaled :=
  match tick.whole? with
  | some t => limited (ofTick t)
  | none => .error .wrongKind

def shown (tick : Int) : String := (ofTick tick).general 8

example : shown 0 = "1" := by decide +kernel

end TickWalk.Price
