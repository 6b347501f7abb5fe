import TickWalk.Failure
import TickWalk.Text.Integer

/-!
# Conversion to integers

`toInteger` accepts truth values, whole numbers, finite floats (their fraction is dropped) and text
or bytes that spell an integer. `integerText` is the way back.
-/

namespace TickWalk.Value

/-- An integer spelled in characters; `given` is what a failure reports. -/
def spelled (given : Value) (s : List Char) : Except Failure Int :=
  match Text.readInteger s with
  | .number i => .ok i
  | .tooLong n => .error (.tooManyDigits (some n))
  | .malformed => .error (.badInteger given)

/-- The integer that a value stands for. -/
def toInteger : Value → Except Failure Int
  | bool b => .ok b.toInt
  | int i => .ok i
  | float f =>
    match Decimal.Parts.ofFloat f with
    | .nan => .error .notANumber
    | .infinite _ => .error .infinity
    | p => .ok (p.truncate?.getD 0)
  | text s => spelled (.text s) s.toList
  | bytes b => spelled (.bytes b) (b.map asciiOrBox)
  | buffer b => spelled (.bytes b) (b.map asciiOrBox)
  | v => .error (.notIntegral v)
where
  /-- A byte as a character; bytes outside ASCII stand for no digit and no blank. -/
  asciiOrBox (b : UInt8) : Char := if b < 0x80 then Char.ofNat b.toNat else '\ufffd'

/-- The decimal text of an integer that is not too long to be written. -/
def integerText (i : Int) : Except Failure String :=
  if Nat.pow 10 Text.digitLimit ≤ i.natAbs then .error (.tooManyDigits none)
  else .ok (String.ofList (Text.writeInteger i))

@[simp] theorem toInteger_int (i : Int) : toInteger (.int i) = .ok i := rfl

end TickWalk.Value
