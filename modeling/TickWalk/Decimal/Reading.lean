import TickWalk.Decimal.Binary

/-!
# Reading decimal numbers

`Scientific.read?` accepts an optional sign, digits with an optional point, and an optional
exponent; `floatOfText?` also knows the names of infinity and not-a-number.
-/

namespace TickWalk.Decimal

/-- A decimal number `± digits * 10 ^ exponent`. -/
structure Scientific where
  negative : Bool
  digits : Nat
  exponent : Int
deriving DecidableEq

def natOfDigits (ds : List Char) : Nat :=
  ds.foldl (fun n c => 10 * n + (c.toNat - 48)) 0

def splitSign : List Char → Bool × List Char
  | '-' :: rest => (true, rest)
  | '+' :: rest => (false, rest)
  | rest => (false, rest)

namespace Scientific

/-- The exponent after the mark, which has at least one digit. -/
def exponent? : List Char → Option Int
  | [] => some 0
  | c :: rest =>
    let (negative, ds) := splitSign rest
    if (c == 'e' || c == 'E') && !ds.isEmpty && ds.all Char.isDigit then
      some (if negative then -(natOfDigits ds : Int) else natOfDigits ds)
    else none

def read? (s : List Char) : Option Scientific :=
  let (negative, body) := splitSign s
  let whole := body.takeWhile Char.isDigit
  let afterWhole := body.dropWhile Char.isDigit
  let (fraction, rest) :=
    match afterWhole with
    | '.' :: more => (more.takeWhile Char.isDigit, more.dropWhile Char.isDigit)
    | _ => ([], afterWhole)
  if whole.isEmpty && fraction.isEmpty then none
  else (exponent? rest).map fun e =>
    ⟨negative, natOfDigits (whole ++ fraction), e - fraction.length⟩

def toFloat (s : Scientific) : Float :=
  let size := Float.ofScientific s.digits (s.exponent < 0) s.exponent.natAbs
  if s.negative then -size else size

end Scientific

def floatOfText? (s : String) : Option Float :=
  let (negative, body) := splitSign s.toList
  let sign (f : Float) : Float := if negative then -f else f
  match String.ofList body with
  | "nan" => some (sign (0.0 / 0.0))
  | "inf" => some (sign (1.0 / 0.0))
  | _ => (Scientific.read? s.toList).map Scientific.toFloat

example : Scientific.read? "-1.50e+3".toList = some ⟨true, 150, 1⟩ := by decide +kernel
example : Scientific.read? "e5".toList = none := by decide +kernel

end TickWalk.Decimal
