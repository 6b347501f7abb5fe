/-!
# Key domains

The closed range of ticks that may be used, and the defaults for loading ticks around the active
one. A scan records only ticks strictly inside its domain.
-/

namespace TickWalk

/-- A closed range of integer keys. -/
structure KeyDomain where
  minKey : Int
  maxKey : Int
deriving DecidableEq, Inhabited

namespace KeyDomain

/-- The ticks of a pool. -/
def ticks : KeyDomain := ⟨-887272, 887272⟩

def contains (d : KeyDomain) (key : Int) : Bool := d.minKey ≤ key && key ≤ d.maxKey

def strictlyInside (d : KeyDomain) (key : Int) : Bool := d.minKey < key && key < d.maxKey

def bounds (d : KeyDomain) : String := s!"[{d.minKey}, {d.maxKey}]"

def shown (d : KeyDomain) : String := s!"KeyDomain(min_key={d.minKey}, max_key={d.maxKey})"

theorem contains_of_strictlyInside {d : KeyDomain} {key : Int} (h : d.strictlyInside key = true) :
    d.contains key = true := by
  simp only [strictlyInside, contains, Bool.and_eq_true, decide_eq_true_eq] at h ⊢
  omega

end KeyDomain

/-- A bitmap word covers this many neighbouring multiples of the spacing. -/
def wordSize : Nat := 256

/-- Ticks fetched in one scan of a load. -/
def defaultBatch : Nat := 50

/-- Ticks loaded on each side of the active one. -/
def defaultBand : Nat := 100

end TickWalk
