import TickWalk.Action
import TickWalk.Direction

/-!
# Providers

A provider answers three questions about a snapshot: which candidate tick comes next, which
liquidity is stored at a tick, and which version the snapshot has. Its answers are loose values.
Questions are asked through `find`, `fetch` and `version`, which leave a trace.
-/

namespace TickWalk

/-- A source of tick state that may change with every answer it gives. -/
structure Provider (σ : Type) where
  answerFind : Value → Value → Direction → Value → Action σ Value
  answerFetch : Value → Value → Action σ Value
  answerVersion : Value → Action σ Value

namespace Provider

variable {σ : Type}

/-- The next candidate from a cursor: a flag and a tick. -/
def find (p : Provider σ) (snapshot cursor : Value) (direction : Direction) (spacing : Value) :
    Action σ Value := do
  Action.note (.read (.find cursor))
  p.answerFind snapshot cursor direction spacing

/-- The gross and net liquidity at a tick. -/
def fetch (p : Provider σ) (snapshot tick : Value) : Action σ Value := do
  Action.note (.read (.fetch tick))
  p.answerFetch snapshot tick

def version (p : Provider σ) (snapshot : Value) : Action σ Value := do
  Action.note (.read .version)
  p.answerVersion snapshot

end Provider

end TickWalk
