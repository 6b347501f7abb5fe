import TickWalk.Decimal.Layout
import TickWalk.Json.Text
import TickWalk.Value.Integer
import TickWalk.Value.Number

/-!
# Writing JSON

A value is written on one line, or with every item on a line of its own, indented by its depth.
Bytes have no JSON form. Floats are written so that they read back, not-a-number and the infinities
by name.
-/

namespace TickWalk.Json

/-- On one line, or with a margin for every level of depth. -/
inductive Layout
  | oneLine
  | lines (margin : List Char)
deriving DecidableEq

namespace Layout

/-- The most characters that a text may have. -/
def textLimit : Nat := Nat.pow 2 63 - 50

def newLine (l : Layout) (depth : Nat) : List Char :=
  match l with
  | oneLine => []
  | lines margin => '\n' :: (List.replicate depth margin).flatten

def comma (l : Layout) (depth : Nat) : List Char :=
  match l with
  | oneLine => [',', ' ']
  | lines _ => ',' :: l.newLine depth

/-- The layout for an indent: none, a number of blanks, or a text to be repeated. -/
def ofIndent : Value → Except Failure Layout
  | .null => .ok oneLine
  | .text s => .ok (lines s.toList)
  | v =>
    match v.whole? with
    | some n => do .ok (lines (List.replicate (← copies textLimit n) ' '))
    | none => .error .wrongKind

def standard : Layout := lines [' ', ' ']

end Layout

def writeFloat (f : Float) : List Char :=
  match Decimal.Parts.ofFloat f with
  | .nan => "NaN".toList
  | .infinite negative => if negative then "-Infinity".toList else "Infinity".toList
  | p => p.text.toList

mutual

def writeAt (l : Layout) (depth : Nat) : Value → Except Failure (List Char)
  | .null => .ok ['n', 'u', 'l', 'l']
  | .bool true => .ok ['t', 'r', 'u', 'e']
  | .bool false => .ok ['f', 'a', 'l', 's', 'e']
  | .int i => do .ok (← Value.integerText i).toList
  | .float f => .ok (writeFloat f)
  | .text s => .ok (writeText s)
  | .bytes _ => .error .wrongKind
  | .buffer _ => .error .wrongKind
  | .list [] => .ok ['[', ']']
  | .list (v :: vs) => do
    let first ← writeAt l (depth + 1) v
    let rest ← writeItems l (depth + 1) vs
    .ok ('[' :: l.newLine (depth + 1) ++ first ++ rest ++ l.newLine depth ++ [']'])
  | .map [] => .ok ['\x7b', '\x7d']
  | .map ((name, v) :: fields) => do
    let first ← writeAt l (depth + 1) v
    let rest ← writeFields l (depth + 1) fields
    .ok ('\x7b' :: l.newLine (depth + 1) ++ writeText name ++ ':' :: ' ' :: first ++ rest ++
      l.newLine depth ++ ['\x7d'])

/-- Items after the first one, each behind a comma. -/
def writeItems (l : Layout) (depth : Nat) : List Value → Except Failure (List Char)
  | [] => .ok []
  | v :: vs => do
    let first ← writeAt l depth v
    let rest ← writeItems l depth vs
    .ok (l.comma depth ++ first ++ rest)

/-- Fields after the first one, each behind a comma. -/
def writeFields (l : Layout) (depth : Nat) :
    List (String × Value) → Except Failure (List Char)
  | [] => .ok []
  | (name, v) :: fields => do
    let first ← writeAt l depth v
    let rest ← writeFields l depth fields
    .ok (l.comma depth ++ writeText name ++ ':' :: ' ' :: first ++ rest)

end

def write (l : Layout) (v : Value) : Except Failure String := do
  .ok (String.ofList (← writeAt l 0 v))

end TickWalk.Json
