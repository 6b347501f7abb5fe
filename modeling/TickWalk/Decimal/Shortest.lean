import TickWalk.Decimal.Binary
import TickWalk.Decimal.Rounding

/-!
# Digits of a positive number

A positive number is given as a quotient `num / den`. `Digits` are its leading decimal digits with
the place of the decimal point. `shortest` finds the fewest digits that read back as the same
binary number, and `rounded` a fixed number of them.
-/

namespace TickWalk.Decimal

/-- Decimal digits `0.d₁d₂… * 10 ^ point`. -/
structure Digits where
  digits : List Char
  point : Int
deriving DecidableEq

namespace Digits

def zero : Digits := ⟨['0'], 1⟩

/-- The digits of `n * 10 ^ scale` without zeros at the end. -/
def ofNat (n : Nat) (scale : Int) : Digits :=
  let all := Nat.toDigits 10 n
  let kept := (all.reverse.dropWhile (· == '0')).reverse
  if n = 0 then zero else ⟨kept, all.length + scale⟩

end Digits

/-- The least `k` with `num / den < 10 ^ k`, for a positive quotient. -/
def leadingPlace (num den : Nat) : Int :=
  if den ≤ num then (Nat.toDigits 10 (num / den)).length
  else below 400 num 0
where
  /-- How often a quotient below one has to be multiplied by ten to reach one. -/
  below : Nat → Nat → Int → Int
    | 0, _, k => k
    | fuel + 1, n, k => if den ≤ n * 10 then k else below fuel (n * 10) (k - 1)

def rounded (count num den : Nat) : Digits :=
  if num = 0 then Digits.zero
  else
    let scale := leadingPlace num den - count
    let steps := inSteps 10 num den scale
    Digits.ofNat (roundQuotient steps.1 steps.2) scale

/-- The numbers that read back as one binary number: from `low / den` to `high / den`, the ends
included when `closed`. -/
structure Reach where
  low : Nat
  high : Nat
  den : Nat
  closed : Bool

namespace Reach

/-- A quarter of a unit in the last place is the common measure; the reach below the least number
of a binade is half as wide. -/
def ofParts (m : Nat) (e : Int) : Reach × Nat :=
  let narrow := m == Nat.pow 2 52 && -1074 < e
  let up : Nat := if 2 ≤ e then Nat.pow 2 (e - 2).toNat else 1
  let down : Nat := if 2 ≤ e then 1 else Nat.pow 2 (2 - e).toNat
  (⟨(4 * m - if narrow then 1 else 2) * up, (4 * m + 2) * up, down, m % 2 == 0⟩, 4 * m * up)

/-- Whether the grid point `c * 10 ^ scale` lies in the reach. -/
def holds (r : Reach) (c : Nat) (scale : Int) : Bool :=
  let point := if 0 ≤ scale then c * Nat.pow 10 scale.toNat * r.den else c * r.den
  let fine : Nat := if 0 ≤ scale then 1 else Nat.pow 10 (-scale).toNat
  if r.closed then r.low * fine ≤ point && point ≤ r.high * fine
  else r.low * fine < point && point < r.high * fine

end Reach

/-- Tries `count`, `count + 1`, … digits: on each grid the two neighbours of the number, the nearer
one if both read back. -/
def shortestFrom (r : Reach) (num : Nat) (place : Int) : Nat → Nat → Digits
  | 0, count => rounded count num r.den
  | fuel + 1, count =>
    let scale := place - count
    let steps := inSteps 10 num r.den scale
    let lower := steps.1 / steps.2
    let nearest := roundQuotient steps.1 steps.2
    let other := if nearest = lower then lower + 1 else lower
    if r.holds nearest scale then Digits.ofNat nearest scale
    else if r.holds other scale then Digits.ofNat other scale
    else shortestFrom r num place fuel (count + 1)

/-- The fewest digits that read back as `m * 2 ^ e`. -/
def shortest (m : Nat) (e : Int) : Digits :=
  if m = 0 then Digits.zero
  else
    let (r, num) := Reach.ofParts m e
    shortestFrom r num (leadingPlace num r.den) 16 1

end TickWalk.Decimal
