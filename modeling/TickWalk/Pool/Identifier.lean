import TickWalk.Failure
import TickWalk.Text.Hex

/-!
# Pool identifiers

A pool is identified by 32 bytes, given as such or in hexadecimal. An odd number of digits is read
as if a zero stood in front of it; the bytes have to be 32 all the same.
-/

namespace TickWalk

structure PoolId where
  bytes : List UInt8
  size : bytes.length = 32
deriving DecidableEq

namespace PoolId

def ofBytes (bytes : List UInt8) : Except Failure PoolId :=
  if h : bytes.length = 32 then .ok ⟨bytes, h⟩ else .error (.poolIdLength bytes.length)

/-- Whether a character is one of the 128 that hexadecimal text is looked up in. -/
def isAscii (c : Char) : Bool := c.toNat < 128

/-- The bytes of hexadecimal text, with or without the mark; the first run of characters that are
not ASCII is refused as such. -/
def bytesOfText (s : String) : Except Failure (List UInt8) :=
  let ds := Text.afterMark s.toList
  let even := if ds.length % 2 = 0 then ds else '0' :: ds
  match even.dropWhile isAscii with
  | c :: rest =>
    let start := (even.takeWhile isAscii).length
    .error (.notAscii c start (start + 1 + (rest.takeWhile (!isAscii ·)).length))
  | [] =>
    match Text.bytesOfHex? even with
    | some bytes => .ok bytes
    | none => .error .notHex

def ofValue : Value → Except Failure PoolId
  | .bytes b => ofBytes b
  | .buffer b => ofBytes b
  | .text s => do ofBytes (← bytesOfText s)
  | _ => .error .wrongKind

def digits (id : PoolId) : String := String.ofList (Text.hexOfBytes id.bytes)

/-- The identifier as text that reads back. -/
def text (id : PoolId) : String := String.ofList ('0' :: 'x' :: Text.hexOfBytes id.bytes)

end PoolId

end TickWalk
