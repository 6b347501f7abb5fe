import TickWalk.Decimal.Layout
import TickWalk.Text.Quoted
import TickWalk.Value.Basic

/-!
# Showing values

`inspect` shows a value so that its kind can be seen, text in quotes. `display` differs from it
only in showing a text as it is.
-/

namespace TickWalk.Value

mutual

def inspect : Value → String
  | null => "None"
  | bool b => if b then "True" else "False"
  | int i => toString i
  | float f => Decimal.floatText f
  | text s => Text.quoted s
  | bytes b => Text.quotedBytes b
  | buffer b => "bytearray(" ++ Text.quotedBytes b ++ ")"
  | list items => "[" ++ ", ".intercalate (inspectItems items) ++ "]"
  | map fields => "\x7b" ++ ", ".intercalate (inspectFields fields) ++ "\x7d"

def inspectItems : List Value → List String
  | [] => []
  | v :: rest => inspect v :: inspectItems rest

def inspectFields : List (String × Value) → List String
  | [] => []
  | (name, v) :: rest => (Text.quoted name ++ ": " ++ inspect v) :: inspectFields rest

end

def display : Value → String
  | text s => s
  | v => inspect v

end TickWalk.Value
