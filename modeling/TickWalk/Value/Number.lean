import TickWalk.Failure
import TickWalk.Value.Equality

/-!
# Arithmetic on loose numbers

Comparison is exact between numbers of every kind, and fails on anything that is not a number.
-/

namespace TickWalk.Value

/-- A whole number; truth values count as zero and one. -/
def whole? : Value → Option Int
  | bool b => some b.toInt
  | int i => some i
  | _ => none

def less (a b : Value) : Except Failure Bool :=
  match a, b with
  | int i, int j => .ok (i < j)
  | _, _ =>
    match a.parts?, b.parts? with
    | some p, some q => .ok (p.compare? q == some .lt)
    | _, _ => .error .wrongKind

/-- Order of two numbers, which not-a-number is in with none. -/
def atMost (a b : Value) : Except Failure Bool :=
  match a, b with
  | int i, int j => .ok (i ≤ j)
  | _, _ =>
    match a.parts?, b.parts? with
    | some p, some q =>
      .ok (match p.compare? q with
        | some .gt => false
        | some _ => true
        | none => false)
    | _, _ => .error .wrongKind

/-- The difference of a number and a whole number. -/
def minus (a : Value) (n : Int) : Except Failure Value :=
  match a with
  | int i => .ok (.int (i - n))
  | bool b => .ok (.int (b.toInt - n))
  | float f => .ok (.float (f - Float.ofInt n))
  | _ => .error .wrongKind

@[simp] theorem less_int (i j : Int) : less (.int i) (.int j) = .ok (decide (i < j)) := rfl

@[simp] theorem atMost_int (i j : Int) : atMost (.int i) (.int j) = .ok (decide (i ≤ j)) := rfl

@[simp] theorem minus_int (i n : Int) : minus (.int i) n = .ok (.int (i - n)) := rfl

end TickWalk.Value
