/-!
# Blanks

The blanks that may stand around a number: the ASCII ones without the four separators, and every
space of the wider character set.
-/

namespace TickWalk.Text

/-- Blanks outside ASCII, as ranges with both ends included. -/
def wideBlanks : List (Nat × Nat) := [
  (0x85, 0x85), (0xa0, 0xa0), (0x1680, 0x1680), (0x2000, 0x200a), (0x2028, 0x2029),
  (0x202f, 0x202f), (0x205f, 0x205f), (0x3000, 0x3000)]

def isBlank (c : Char) : Bool :=
  c == ' ' || (9 ≤ c.toNat && c.toNat ≤ 13) ||
    wideBlanks.any fun r => r.1 ≤ c.toNat && c.toNat ≤ r.2

def trimBlanks (s : List Char) : List Char :=
  ((s.dropWhile isBlank).reverse.dropWhile isBlank).reverse

end TickWalk.Text
