import TickWalk.Decimal.Reading
import TickWalk.Decimal.Rounding

/-!
# The nearest binary number

A decimal number is a quotient of whole numbers. The binary64 number nearest to it has the leading 53
binary digits of the quotient, or those from the least place of all; a tie goes to the even digit. What is
too large for them is infinite.
-/

namespace TickWalk.Decimal

/-- The least `k` with `num / den < 2 ^ k`, for a positive quotient. -/
def leadingBit (num den : Nat) : Int :=
  let k : Int := num.log2 - den.log2
  let steps := inSteps 2 num den k
  if steps.2 ≤ steps.1 then k + 1 else k

def Parts.nearest (negative : Bool) (num den : Nat) : Parts :=
  if num = 0 then finite negative 0 (-1074)
  else
    let place := max (leadingBit num den - 53) (-1074)
    let steps := inSteps 2 num den place
    let m := roundQuotient steps.1 steps.2
    -- Rounded up to a power of two, a mantissa has a digit too many.
    let (mantissa, exponent) := if m = Nat.pow 2 53 then (Nat.pow 2 52, place + 1) else (m, place)
    if 971 < exponent then infinite negative else finite negative mantissa exponent

/-- The binary number that is nearest to a written one. -/
def Scientific.nearest (x : Scientific) : Parts :=
  let quotient := quotientOf 10 x.digits x.exponent
  .nearest x.negative quotient.1 quotient.2

example : Scientific.nearest ⟨false, 1, -1⟩ = .finite false 0x1999999999999a (-56) := by decide +kernel
example : Scientific.nearest ⟨true, 2, 308⟩ = .infinite true := by decide +kernel
example : Scientific.nearest ⟨false, 5, -324⟩ = .finite false 1 (-1074) := by decide +kernel

end TickWalk.Decimal
