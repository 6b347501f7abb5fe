import TickWalk.Decimal.Layout
import TickWalk.Decimal.Nearest
import TickWalk.Value.Integer

/-!
# Tables

A table has columns with a heading each, drawn in a grid. Numbers stand at the right of their
column, one below the other by their decimal point; other cells stand at the left. A column of
decimal texts that are not all integers is shown with six significant digits.
-/

namespace TickWalk.Table

structure Column where
  heading : String
  cells : List String
  numeric : Bool

def padLeft (width : Nat) (s : String) : String :=
  String.ofList (List.replicate (width - s.length) ' ') ++ s

def padRight (width : Nat) (s : String) : String :=
  s ++ String.ofList (List.replicate (width - s.length) ' ')

/-- Whether a text is a row of digits, perhaps with a minus sign. -/
def isInteger (s : String) : Bool :=
  let ds := match s.toList with
    | '-' :: ds => ds
    | ds => ds
  !ds.isEmpty && ds.all Char.isDigit

/-- The number of characters after the point, or after the exponent mark where there is no point;
one more than that, and nothing for an integer. -/
def tailLength (s : String) : Nat :=
  let after (mark : Char) : Option Nat :=
    if s.toList.contains mark then some (s.toList.reverse.takeWhile (· != mark)).length else none
  if isInteger s then 0
  else
    match after '.' with
    | some n => n + 1
    | none =>
      match after 'e' with
      | some n => n + 1
      | none => 0

/-- Numbers with blanks behind them, so that their points are in one column. -/
def alignPoints (cells : List String) : List String :=
  let most := (cells.map tailLength).foldl max 0
  cells.map fun c => padRight (c.length + (most - tailLength c)) c

/-- A decimal text with six significant digits. -/
def sixDigits (s : String) : String :=
  match Decimal.Scientific.read? s.toList with
  | some x => x.nearest.general
  | none => s

namespace Column

def ofIntegers (heading : String) (values : List Int) : Except Failure Column := do
  .ok ⟨heading, ← values.mapM Value.integerText, true⟩

def ofTruths (heading : String) (values : List Bool) : Column :=
  ⟨heading, values.map fun b => if b then "True" else "False", false⟩

/-- Decimal texts: as they are when all of them are integers. -/
def ofDecimals (heading : String) (texts : List String) : Column :=
  if texts.all isInteger then ⟨heading, texts, true⟩
  else ⟨heading, texts.map sixDigits, true⟩

/-- Cells and heading in one width, which is two more than the heading needs, or that of the widest
cell. -/
def laidOut (c : Column) : List String × String :=
  let cells := if c.numeric then alignPoints c.cells else c.cells
  let width := (cells.map String.length).foldl max (c.heading.length + 2)
  let pad := if c.numeric then padLeft width else padRight width
  (cells.map pad, pad c.heading)

end Column

def rule (mark : Char) (widths : List Nat) : String :=
  "+" ++ "+".intercalate (widths.map fun w => String.ofList (List.replicate (w + 2) mark)) ++ "+"

def row (cells : List String) : String :=
  "|" ++ "|".intercalate (cells.map fun c => " " ++ c ++ " ") ++ "|"

def rows : (count : Nat) → List (List String) → List (List String)
  | 0, _ => []
  | count + 1, columns => columns.filterMap List.head? :: rows count (columns.map List.tail)

/-- The lines of a table with `count` rows. -/
def grid (count : Nat) (columns : List Column) : List String :=
  let laid := columns.map Column.laidOut
  let headings := laid.map (·.2)
  let widths := headings.map String.length
  let body := (rows count (laid.map (·.1))).flatMap fun r => [row r, rule '-' widths]
  rule '-' widths :: row headings :: rule '=' widths :: body

end TickWalk.Table
