import TickWalk.Decimal.Shortest

/-!
# Written numbers

A `Layout` decides how digits are written: between which places of the point they stand in full,
and whether a whole number keeps a point. `Parts.text` writes a float so that it reads back,
`Parts.general` writes six digits for people.
-/

namespace TickWalk.Decimal

/-- Digits stand in full when the point is after `least` and not after `most`. -/
structure Layout where
  least : Int
  most : Int
  keepsPoint : Bool

def twoDigits (n : Nat) : List Char :=
  let ds := Nat.toDigits 10 n
  if ds.length < 2 then '0' :: ds else ds

/-- Digits without an exponent, zeros filling the gap to the point. -/
def Layout.inFull (l : Layout) (d : Digits) : List Char :=
  if d.point ≤ 0 then '0' :: '.' :: List.replicate (-d.point).toNat '0' ++ d.digits
  else
    let before := d.point.toNat
    if d.digits.length ≤ before then
      d.digits ++ List.replicate (before - d.digits.length) '0' ++
        (if l.keepsPoint then ['.', '0'] else [])
    else d.digits.take before ++ '.' :: d.digits.drop before

def withExponent (d : Digits) : List Char :=
  let power := d.point - 1
  let tail := if d.digits.length ≤ 1 then [] else '.' :: d.digits.drop 1
  d.digits.take 1 ++ tail ++ ['e', if power < 0 then '-' else '+'] ++ twoDigits power.natAbs

def Layout.write (l : Layout) (negative : Bool) (d : Digits) : String :=
  let body := if l.least < d.point && d.point ≤ l.most then l.inFull d else withExponent d
  String.ofList (if negative then '-' :: body else body)

/-- The layout of a float that has to read back. -/
def Layout.readable : Layout := ⟨-4, 16, true⟩

/-- The layout of a float of six digits in a table. -/
def Layout.tabular : Layout := ⟨-4, 6, false⟩

/-- The shortest text that reads back as the same float. -/
def Parts.text : Parts → String
  | .nan => "nan"
  | .infinite negative => if negative then "-inf" else "inf"
  | .finite negative m e => Layout.readable.write negative (shortest m e)

/-- A float of six significant digits. -/
def Parts.general : Parts → String
  | .nan => "nan"
  | .infinite negative => if negative then "-inf" else "inf"
  | .finite negative m e =>
    let quotient := quotientOf 2 m e
    Layout.tabular.write negative (rounded 6 quotient.1 quotient.2)

def floatText (f : Float) : String := (Parts.ofFloat f).text

example : (Parts.ofInt 1).text = "1.0" := by decide +kernel
example : (Parts.finite false 1 (-1074)).text = "5e-324" := by decide +kernel
example : (Parts.finite true 0x18000000000000 (-52)).text = "-1.5" := by decide +kernel
example : (Parts.finite false (5 ^ 22 * 2) 21).text = "1e+22" := by decide +kernel
example : (Parts.ofInt 216725).general = "216725" := by decide +kernel
example : (Parts.ofInt 1234567).general = "1.23457e+06" := by decide +kernel

end TickWalk.Decimal
