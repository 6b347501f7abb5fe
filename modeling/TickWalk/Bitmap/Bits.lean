/-!
# Highest and lowest set bit

Both are found for every integer. A word that is zero has neither, and answers minus one; the
highest bit disregards the sign, while the lowest one is that of the two's complement.
-/

namespace TickWalk.Bitmap

/-- The lowest set bit of a positive number. -/
def trailingZeros (n : Nat) : Nat :=
  if h : n = 0 then 0
  else if n % 2 = 1 then 0
  else trailingZeros (n / 2) + 1
termination_by n
decreasing_by omega

def highestBit (word : Int) : Int :=
  if word = 0 then -1 else word.natAbs.log2

def lowestBit (word : Int) : Int :=
  if word = 0 then -1 else trailingZeros word.natAbs

/-- The low 256 bits of a word of any size and sign, in two's complement. -/
def low256 (word : Int) : Nat := (word % (Nat.pow 2 256 : Nat)).toNat

theorem low256_lt (word : Int) : low256 word < Nat.pow 2 256 := by
  have hpos : (0 : Int) < (Nat.pow 2 256 : Nat) := by decide
  have hlt := Int.emod_lt_of_pos word hpos
  unfold low256
  omega

theorem testBit_trailingZeros {n : Nat} (h : n ≠ 0) : n.testBit (trailingZeros n) = true := by
  induction n using Nat.strongRecOn with
  | _ n ih =>
    rw [trailingZeros]
    by_cases hodd : n % 2 = 1
    · simp [h, hodd]
    · have hhalf := ih (n / 2) (by omega) (by omega)
      simp only [h, hodd, dite_false, ite_false]
      rwa [Nat.testBit_add_one]

end TickWalk.Bitmap
