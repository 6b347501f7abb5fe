import TickWalk.Value.Basic

/-!
# Equality of values

Numbers are equal when they have the same value, whatever kind they are of: `true`, `1` and `1.0`
are one number. Maps are equal when they hold the same fields, in any order.
-/

namespace TickWalk.Value

/-- The exact value of a number. -/
def parts? : Value → Option Decimal.Parts
  | bool b => some (.ofInt b.toInt)
  | int i => some (.ofInt i)
  | float f => some (.ofFloat f)
  | _ => none

def sameNumber (a b : Value) : Bool :=
  match a, b with
  | int i, int j => i == j
  | _, _ =>
    match a.parts?, b.parts? with
    | some p, some q => p.compare? q == some .eq
    | _, _ => false

mutual

def same : Value → Value → Bool
  | null, null => true
  | text s, text t => s == t
  | bytes b, bytes c => b == c
  | bytes b, buffer c => b == c
  | buffer b, bytes c => b == c
  | buffer b, buffer c => b == c
  | list xs, list ys => sameItems xs ys
  | map fs, map gs => fs.length == gs.length && sameFields fs gs
  | a, b => sameNumber a b

def sameItems : List Value → List Value → Bool
  | [], [] => true
  | x :: xs, y :: ys => same x y && sameItems xs ys
  | _, _ => false

/-- Every field of the first list is in the second. -/
def sameFields : List (String × Value) → List (String × Value) → Bool
  | [], _ => true
  | (name, v) :: rest, fields =>
    (match field? fields name with
      | some w => same v w
      | none => false) && sameFields rest fields

end

theorem same_int (i j : Int) : same (.int i) (.int j) = (i == j) := by
  simp [same, sameNumber]

end TickWalk.Value
