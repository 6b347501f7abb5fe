/-!
# Rounding quotients

A quotient of natural numbers goes to the nearest whole number, a tie to the even one. On a coarser or
finer grid, it is first counted in steps of the grid.
-/

namespace TickWalk.Decimal

/-- A quotient rounded to a whole number, a tie to the even one. -/
def roundQuotient (num den : Nat) : Nat :=
  let q := num / den
  let twice := 2 * (num % den)
  if den < twice || (twice == den && q % 2 == 1) then q + 1 else q

/-- `num / den` as a number of grid steps of size `base ^ place`: numerator and denominator. -/
def inSteps (base num den : Nat) (place : Int) : Nat × Nat :=
  if 0 ≤ place then (num, den * Nat.pow base place.toNat)
  else (num * Nat.pow base (-place).toNat, den)

/-- The number `m * base ^ place`: numerator and denominator. -/
def quotientOf (base m : Nat) (place : Int) : Nat × Nat := inSteps base m 1 (-place)

end TickWalk.Decimal
