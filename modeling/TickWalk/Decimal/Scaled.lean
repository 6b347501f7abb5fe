import TickWalk.Decimal.Rounding

/-!
# Decimal arithmetic with a working precision

A `Scaled` is `coefficient * 10 ^ exponent`. Products and quotients are rounded to a number of
significant digits, ties to even; what is exact with fewer digits keeps them. `general` writes a
number with a limited number of digits, with an exponent where zeros would otherwise have to be made
up.
-/

namespace TickWalk.Decimal

structure Scaled where
  coefficient : Nat
  exponent : Int
deriving DecidableEq

def digitCount (n : Nat) : Nat := (Nat.toDigits 10 n).length

namespace Scaled

def one : Scaled := ⟨1, 0⟩

/-- At most `precision` digits; rounding up to a power of ten drops the zero that it adds. -/
def roundTo (precision : Nat) (x : Scaled) : Scaled :=
  let excess := digitCount x.coefficient - precision
  if excess = 0 then x
  else
    let c := roundQuotient x.coefficient (Nat.pow 10 excess)
    if digitCount c = precision then ⟨c, x.exponent + excess⟩
    else ⟨c / 10, x.exponent + excess + 1⟩

def mul (precision : Nat) (x y : Scaled) : Scaled :=
  roundTo precision ⟨x.coefficient * y.coefficient, x.exponent + y.exponent⟩

def inverse (precision : Nat) (x : Scaled) : Scaled :=
  let shift := precision + digitCount x.coefficient
  let wide := Nat.pow 10 shift / x.coefficient
  let excess := digitCount wide - precision
  ⟨roundQuotient (Nat.pow 10 shift) (x.coefficient * Nat.pow 10 excess), excess - shift - x.exponent⟩

/-- The power by squaring, the binary digits of the exponent from the highest down. -/
def pow (precision : Nat) (x : Scaled) (n : Nat) : Scaled :=
  if n ≤ 1 then (if n = 0 then one else x)
  else
    let half := pow precision x (n / 2)
    let square := half.mul precision half
    if n % 2 = 0 then square else square.mul precision x
termination_by n
decreasing_by omega

def adjusted (x : Scaled) : Int := x.exponent + digitCount x.coefficient - 1

def inFull (x : Scaled) : List Char :=
  let ds := Nat.toDigits 10 x.coefficient
  let places := (-x.exponent).toNat
  if places = 0 then ds
  else if places < ds.length then
    ds.take (ds.length - places) ++ '.' :: ds.drop (ds.length - places)
  else '0' :: '.' :: List.replicate (places - ds.length) '0' ++ ds

/-- One digit before the point, and the exponent of that digit with its sign. -/
def withExponent (x : Scaled) : List Char :=
  let ds := Nat.toDigits 10 x.coefficient
  let tail := if ds.length ≤ 1 then [] else '.' :: ds.drop 1
  let sign := if x.adjusted < 0 then '-' else '+'
  ds.take 1 ++ tail ++ 'e' :: sign :: Nat.toDigits 10 x.adjusted.natAbs

/-- At most `precision` digits, without an exponent from a millionth up to where digits end. -/
def general (precision : Nat) (x : Scaled) : String :=
  let y := x.roundTo precision
  String.ofList (if 0 < y.exponent || y.adjusted < -6 then y.withExponent else y.inFull)

end Scaled

example : (Scaled.mk 123456785 (-4)).general 8 = "12345.678" := by decide +kernel
example : (Scaled.mk 999999995 (-4)).general 8 = "100000.00" := by decide +kernel
example : (Scaled.mk 15 (-8)).general 8 = "1.5e-7" := by decide +kernel
example : (Scaled.mk 1234567891 3).general 8 = "1.2345679e+12" := by decide +kernel

end TickWalk.Decimal
