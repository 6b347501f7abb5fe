import TickWalk.Bitmap.Bits
import TickWalk.Bitmap.Position
import TickWalk.Direction

/-!
# Search inside one bitmap word

The search for the next initialized tick looks at one word only: the one that holds the compressed
tick, or for an upward search the one after the compressed tick. A `Probe` says which word that is
and where in it the search begins; `Probe.answer` reads the tick off the word. Without a set bit on
the searched side the answer is the edge of the word, marked as not initialized. `search` goes
through the probe with words from any source.
-/

namespace TickWalk.Bitmap

/-- One search: the direction, the spacing, and the first compressed tick that may be a hit. -/
structure Probe where
  direction : Direction
  spacing : Int
  first : Int
deriving DecidableEq

namespace Probe

/-- The search for what follows `tick`. -/
def at? (direction : Direction) (spacing tick : Int) : Except Failure Probe := do
  let c ← compress tick spacing
  .ok ⟨direction, spacing, match direction with | .inclusive => c | .exclusive => c + 1⟩

/-- The search for what follows a loose tick; tick and spacing have to be whole numbers, and a zero
spacing of any kind is refused as such. -/
def ofValues (direction : Direction) (spacing tick : Value) : Except Failure Probe :=
  match tick.whole?, spacing.whole? with
  | some t, some s => at? direction s t
  | _, _ =>
    match tick.parts?, spacing.parts? with
    | some _, some p => if p.isZero then .error .divisionByZero else .error .wrongKind
    | _, _ => .error .wrongKind

@[simp] theorem ofValues_int (direction : Direction) (spacing tick : Int) :
    ofValues direction (.int spacing) (.int tick) = at? direction spacing tick := rfl

def word (p : Probe) : Int := (position p.first).word

def bit (p : Probe) : Nat := (position p.first).bit

/-- The bits of a word on the searched side. -/
def visible (p : Probe) (word : Int) : Nat :=
  match p.direction with
  | .inclusive => low256 word % Nat.pow 2 (p.bit + 1)
  | .exclusive => low256 word >>> p.bit <<< p.bit

/-- The compressed tick at bit `b` of the word that was read. -/
def compressedAt (p : Probe) (b : Nat) : Int := p.first - p.bit + b

/-- Whether a tick was found, and which one, or else the edge of the word. -/
def answer (p : Probe) (word : Int) : Bool × Int :=
  let seen := p.visible word
  match p.direction with
  | .inclusive =>
    if seen = 0 then (false, p.compressedAt 0 * p.spacing)
    else (true, p.compressedAt seen.log2 * p.spacing)
  | .exclusive =>
    if seen = 0 then (false, p.compressedAt (wordSize - 1) * p.spacing)
    else (true, p.compressedAt (trailingZeros seen) * p.spacing)

def answerValue (p : Probe) (word : Int) : Value :=
  let (initialized, tick) := p.answer word
  .list [.bool initialized, .int tick]

end Probe

def search {m : Type → Type} [Monad m] [MonadLiftT (Except Failure) m] (read : Int → m Int)
    (direction : Direction) (spacing tick : Value) : m (Bool × Int) := do
  let probe ← Probe.ofValues direction spacing tick
  let word ← read probe.word
  pure (probe.answer word)

end TickWalk.Bitmap
