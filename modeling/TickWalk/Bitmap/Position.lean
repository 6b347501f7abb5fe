import TickWalk.Domain
import TickWalk.Failure
import TickWalk.Keyed

/-!
# Ticks and bitmap words

A tick is compressed by the spacing, rounding down; the compressed tick is bit `c mod 256` of word
`c / 256`. A bitmap lists its words with the word number in front.
-/

namespace TickWalk.Bitmap

/-- The number of the spacing interval that holds a tick; a spacing of zero has none. -/
def compress (tick spacing : Int) : Except Failure Int :=
  if spacing = 0 then .error .divisionByZero else .ok (tick.fdiv spacing)

/-- Where a compressed tick is kept. -/
structure Place where
  word : Int
  bit : Nat
deriving DecidableEq

def position (compressed : Int) : Place :=
  ⟨compressed / wordSize, (compressed % wordSize).toNat⟩

def Place.compressed (p : Place) : Int := p.word * wordSize + p.bit

@[simp] theorem compressed_position (c : Int) : (position c).compressed = c := by
  simp only [position, Place.compressed, wordSize]
  omega

theorem position_bit_lt (c : Int) : (position c).bit < wordSize := by
  simp only [position, wordSize]
  omega

end TickWalk.Bitmap

namespace TickWalk

/-- Bitmap words by number; a word that is not listed is zero. -/
abbrev Words := Keyed Nat

namespace Words

def get (words : Words) (number : Int) : Nat := (words.get? number).getD 0

def mark (words : Words) (p : Bitmap.Place) : Words :=
  words.put p.word (words.get p.word ||| 1 <<< p.bit)

@[simp] theorem get_nil (number : Int) : get [] number = 0 := rfl

theorem get_mark (words : Words) (p : Bitmap.Place) (number : Int) :
    (words.mark p).get number =
      if number = p.word then words.get p.word ||| 1 <<< p.bit else words.get number := by
  simp only [get, mark, Keyed.get?_put]
  split <;> simp

end Words

/-- The bitmap of ticks given in any order; every one has to be a multiple of the spacing. -/
def Bitmap.build (spacing : Int) : List Int → Except Failure Words
  | ticks => ticks.foldlM add []
where
  add (words : Words) (tick : Int) : Except Failure Words := do
    let c ← Bitmap.compress tick spacing
    if tick.fmod spacing ≠ 0 then Failure.refuse (.misaligned tick (.int spacing))
    else .ok (words.mark (Bitmap.position c))

end TickWalk
