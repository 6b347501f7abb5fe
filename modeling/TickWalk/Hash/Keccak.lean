/-!
# Keccak

`keccak256` absorbs a message in blocks of 136 bytes into a state of 25 lanes and answers the first
32 bytes of the permuted state. The padding is a one bit right after the message and another at the
end of the last block.
-/

namespace TickWalk.Hash

/-- The state; the lane in column `x` of row `y` is at `x + 5 * y`. -/
abbrev Lanes := Array UInt64

def lane (a : Lanes) (i : Nat) : UInt64 := a.getD i 0

def rotate (w : UInt64) (n : Nat) : UInt64 :=
  if n = 0 then w else w <<< UInt64.ofNat n ||| w >>> UInt64.ofNat (64 - n)

def rotations : Array Nat := #[
  0, 1, 62, 28, 27, 36, 44, 6, 55, 20, 3, 10, 43, 25, 39, 41, 45, 15, 21, 8, 18, 2, 61, 56, 14]

/-- The constants that tell the rounds apart. -/
def roundConstants : List UInt64 := [
  0x0000000000000001, 0x0000000000008082, 0x800000000000808a, 0x8000000080008000,
  0x000000000000808b, 0x0000000080000001, 0x8000000080008081, 0x8000000000008009,
  0x000000000000008a, 0x0000000000000088, 0x0000000080008009, 0x000000008000000a,
  0x000000008000808b, 0x800000000000008b, 0x8000000000008089, 0x8000000000008003,
  0x8000000000008002, 0x8000000000000080, 0x000000000000800a, 0x800000008000000a,
  0x8000000080008081, 0x8000000000008080, 0x0000000080000001, 0x8000000080008008]

/-- Adds to every lane the parity of two neighbouring columns. -/
def mixColumns (a : Lanes) : Lanes :=
  let parity := Array.ofFn fun x : Fin 5 =>
    lane a x ^^^ lane a (x + 5) ^^^ lane a (x + 10) ^^^ lane a (x + 15) ^^^ lane a (x + 20)
  Array.ofFn fun i : Fin 25 =>
    let x := i.val % 5
    lane a i ^^^ lane parity ((x + 4) % 5) ^^^ rotate (lane parity ((x + 1) % 5)) 1

/-- Rotates every lane and moves it to its new place. -/
def moveLanes (a : Lanes) : Lanes :=
  Array.ofFn fun i : Fin 25 =>
    let old := (i.val % 5 + 3 * (i.val / 5)) % 5 + 5 * (i.val % 5)
    rotate (lane a old) (rotations.getD old 0)

/-- Combines every lane with the next two of its row. -/
def mixRows (a : Lanes) : Lanes :=
  Array.ofFn fun i : Fin 25 =>
    let row := 5 * (i.val / 5)
    let x := i.val % 5
    lane a i ^^^ ((~~~ lane a (row + (x + 1) % 5)) &&& lane a (row + (x + 2) % 5))

def round (a : Lanes) (constant : UInt64) : Lanes :=
  let b := mixRows (moveLanes (mixColumns a))
  b.set! 0 (lane b 0 ^^^ constant)

def permute (a : Lanes) : Lanes := roundConstants.foldl round a

def rate : Nat := 136

/-- The message with its padding: a whole number of blocks. -/
def padded (message : List UInt8) : List UInt8 :=
  let missing := rate - message.length % rate
  if missing = 1 then message ++ [0x81]
  else message ++ 0x01 :: List.replicate (missing - 2) 0 ++ [0x80]

/-- Eight bytes as a lane, the first one lowest. -/
def laneOfBytes (bytes : List UInt8) : UInt64 :=
  bytes.foldr (fun b w => w <<< 8 ||| b.toUInt64) 0

def bytesOfLane (w : UInt64) : List UInt8 :=
  (List.range 8).map fun i => (w >>> UInt64.ofNat (8 * i)).toUInt8

def absorb (a : Lanes) (block : List UInt8) : Lanes :=
  permute (Array.ofFn fun i : Fin 25 => lane a i ^^^ laneOfBytes ((block.drop (8 * i)).take 8))

def absorbBlocks : Nat → Lanes → List UInt8 → Lanes
  | 0, a, _ => a
  | n + 1, a, bytes => absorbBlocks n (absorb a (bytes.take rate)) (bytes.drop rate)

def keccak256 (message : List UInt8) : List UInt8 :=
  let bytes := padded message
  let a := absorbBlocks (bytes.length / rate) (Array.replicate 25 0) bytes
  (List.range 4).flatMap fun i => bytesOfLane (lane a i)

end TickWalk.Hash
