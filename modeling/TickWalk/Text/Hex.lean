/-!
# Hexadecimal text

Numbers are written with lower-case digits; digits of either case are read. Bytes take two digits
each.
-/

namespace TickWalk.Text

/-- `n` in lower-case hexadecimal with at least `width` digits. -/
def hexDigits (width n : Nat) : List Char :=
  let ds := Nat.toDigits 16 n
  List.replicate (width - ds.length) '0' ++ ds

/-- The value of a hexadecimal digit of either case. -/
def hexValue? (c : Char) : Option Nat :=
  if '0' ≤ c && c ≤ '9' then some (c.toNat - 0x30)
  else if 'a' ≤ c && c ≤ 'f' then some (c.toNat - 0x57)
  else if 'A' ≤ c && c ≤ 'F' then some (c.toNat - 0x37)
  else none

def hexOfBytes (bytes : List UInt8) : List Char := bytes.flatMap fun b => hexDigits 2 b.toNat

/-- The bytes that an even number of digits spells. -/
def bytesOfHex? : List Char → Option (List UInt8)
  | [] => some []
  | [_] => none
  | a :: b :: rest => do
    let high ← hexValue? a
    let low ← hexValue? b
    let more ← bytesOfHex? rest
    some (UInt8.ofNat (high * 16 + low) :: more)

/-- What follows the mark of hexadecimal text, if it is there. -/
def afterMark : List Char → List Char
  | '0' :: 'x' :: rest => rest
  | '0' :: 'X' :: rest => rest
  | s => s

example : bytesOfHex? ['0', '1', 'f', 'F'] = some [1, 255] := by decide
example : hexOfBytes [0, 171] = ['0', '0', 'a', 'b'] := by decide

end TickWalk.Text
