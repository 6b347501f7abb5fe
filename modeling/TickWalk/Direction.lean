import TickWalk.Value.Number

/-!
# Scan directions

An inclusive scan walks down and may meet the tick it starts at; an exclusive scan walks up and
never does. After a hit at `t` the search goes on from `nextCursor t`, so that no tick is met twice.
-/

namespace TickWalk

inductive Direction
  | inclusive
  | exclusive
deriving DecidableEq, Inhabited

namespace Direction

/-- Whether the search covers the cursor and what is below it. -/
def lte : Direction → Bool
  | inclusive => true
  | exclusive => false

/-- Selling the first currency moves the price down. -/
def ofZeroForOne (zeroForOne : Bool) : Direction := if zeroForOne then inclusive else exclusive

def name : Direction → String
  | inclusive => "inclusive"
  | exclusive => "exclusive"

def ofName? : String → Option Direction
  | "inclusive" => some inclusive
  | "exclusive" => some exclusive
  | _ => none

/-- The cursor of the search that follows a hit at `tick`. -/
def nextCursor : Direction → Int → Int
  | inclusive, tick => tick - 1
  | exclusive, tick => tick

/-- `nextCursor` of a hit that a provider has reported as a loose number. -/
def advance : Direction → Value → Except Failure Value
  | inclusive, tick => tick.minus 1
  | exclusive, tick => .ok tick

/-- Whether `later` comes strictly after `earlier` in this direction. -/
def precedes : Direction → Int → Int → Bool
  | inclusive, earlier, later => later < earlier
  | exclusive, earlier, later => earlier < later

@[simp] theorem ofName?_name (d : Direction) : ofName? d.name = some d := by cases d <;> rfl

@[simp] theorem advance_int (d : Direction) (tick : Int) :
    d.advance (.int tick) = .ok (.int (d.nextCursor tick)) := by cases d <;> rfl

end Direction

end TickWalk
