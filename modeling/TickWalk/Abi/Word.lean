/-!
# Words of contract calls

Arguments and answers of contract calls are rows of 32-byte words, the highest byte first. Negative
numbers are in two's complement.
-/

namespace TickWalk.Abi

/-- The lowest `width` bytes of a number, the highest of them first. -/
def bigEndian : (width : Nat) → Nat → List UInt8
  | 0, _ => []
  | width + 1, n => bigEndian width (n / 256) ++ [UInt8.ofNat (n % 256)]

def ofBigEndian (bytes : List UInt8) : Nat := bytes.foldl (fun n b => n * 256 + b.toNat) 0

def word (n : Nat) : List UInt8 := bigEndian 32 n

def signedWord (i : Int) : List UInt8 := word (i % (Nat.pow 2 256 : Nat)).toNat

/-- Whether an integer fits a signed type of so many bits. -/
def fits (bits : Nat) (i : Int) : Bool :=
  let half : Int := (Nat.pow 2 (bits - 1) : Nat)
  decide (-half ≤ i) && decide (i < half)

/-- Whether an integer fits an unsigned type of so many bits. -/
def fitsUnsigned (bits : Nat) (i : Int) : Bool := decide (0 ≤ i) && decide (i < (Nat.pow 2 bits : Nat))

end TickWalk.Abi
