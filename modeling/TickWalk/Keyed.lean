/-!
# Entries by number

A list of entries in the order in which their numbers were first used, with at most one entry read
for every number. `get?_put` says that a write is seen under its own number only.
-/

namespace TickWalk

/-- Entries with a number in front of each. -/
abbrev Keyed (α : Type) := List (Int × α)

namespace Keyed

variable {α : Type}

def get? (entries : Keyed α) (number : Int) : Option α := entries.lookup number

/-- Replaces the entry of a number where it stands, or appends a new one. -/
def put (entries : Keyed α) (number : Int) (entry : α) : Keyed α :=
  match entries with
  | [] => [(number, entry)]
  | (n, old) :: rest =>
    if n = number then (n, entry) :: rest else (n, old) :: put rest number entry

@[simp] theorem get?_nil (number : Int) : get? ([] : Keyed α) number = none := rfl

theorem get?_cons (n m : Int) (entry : α) (rest : Keyed α) :
    get? ((n, entry) :: rest) m = if m = n then some entry else get? rest m := by
  by_cases h : m = n
  · simp [get?, h]
  · have hb : (m == n) = false := by simpa using h
    rw [get?, List.lookup_cons, hb, if_neg h]
    rfl

theorem get?_put (entries : Keyed α) (number m : Int) (entry : α) :
    (entries.put number entry).get? m = if m = number then some entry else entries.get? m := by
  induction entries with
  | nil => simp [put, get?_cons]
  | cons p rest ih =>
    obtain ⟨n, old⟩ := p
    by_cases hn : n = number
    · subst hn
      by_cases h : m = n <;> simp [put, get?_cons, h]
    · by_cases h : m = n
      · subst h
        simp [put, hn, get?_cons]
      · simp [put, hn, get?_cons, h, ih]

end Keyed

end TickWalk
