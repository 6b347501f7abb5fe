import TickWalk.Text.Blank
import TickWalk.Text.Digit

/-!
# Integers in text

`readInteger` accepts blanks around one optional sign and decimal digits of any script, with single
underscores between digits. `writeInteger` is the plain decimal form.
-/

namespace TickWalk.Text

/-- The digits at the front, each underscore standing between two of them, and what follows;
`afterDigit` tells that a digit has just been read. -/
def digitsAfter : Bool → List Char → Option (List Nat × List Char)
  | afterDigit, [] => if afterDigit then some ([], []) else none
  | afterDigit, c :: rest =>
    match decimal? c with
    | some d => (digitsAfter true rest).map fun p => (d :: p.1, p.2)
    | none =>
      if !afterDigit then none
      else if c == '_' then digitsAfter false rest
      else some ([], c :: rest)

def positional (ds : List Nat) : Nat := ds.foldl (fun n d => 10 * n + d) 0

/-- What a text says about an integer: nothing, a number, or more digits than may be read. -/
inductive IntegerText
  | malformed
  | tooLong (digits : Nat)
  | number (value : Int)
deriving DecidableEq

def digitLimit : Nat := 4300

/-- The sign in front of digits, which tells a negative number, and what follows it. -/
def splitSign : List Char → Bool × List Char
  | '-' :: rest => (true, rest)
  | '+' :: rest => (false, rest)
  | rest => (false, rest)

def readInteger (s : List Char) : IntegerText :=
  let (negative, body) := splitSign (trimBlanks s)
  match digitsAfter false body with
  | none => .malformed
  | some (ds, rest) =>
    if digitLimit < ds.length then .tooLong ds.length
    else if !rest.isEmpty then .malformed
    else .number (if negative then -(positional ds : Int) else positional ds)

/-- Decimal digits with a minus sign in front of a negative number. -/
def writeInteger (i : Int) : List Char :=
  let ds := Nat.toDigits 10 i.natAbs
  if i < 0 then '-' :: ds else ds

example : readInteger " +1_000 ".toList = .number 1000 := by decide +kernel
example : readInteger "-٣".toList = .number (-3) := by decide +kernel
example : readInteger "1__0".toList = .malformed := by decide +kernel
example : readInteger "- 5".toList = .malformed := by decide +kernel
example : readInteger "5_".toList = .malformed := by decide +kernel

end TickWalk.Text
