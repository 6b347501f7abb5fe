import TickWalk.Text.Integer
import TickWalk.Value.Basic

/-!
# Values that can be shown

An integer with more digits than may be written cannot be shown, and neither can a collection that
holds one.
-/

namespace TickWalk.Value

mutual

/-- Whether every integer in a value can be written. -/
def isShort : Value → Bool
  | int i => (Nat.toDigits 10 i.natAbs).length ≤ Text.digitLimit
  | list items => areShort items
  | map fields => haveShort fields
  | _ => true

def areShort : List Value → Bool
  | [] => true
  | v :: rest => isShort v && areShort rest

def haveShort : List (String × Value) → Bool
  | [] => true
  | (_, v) :: rest => isShort v && haveShort rest

end

end TickWalk.Value
