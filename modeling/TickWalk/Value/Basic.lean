import TickWalk.Decimal.Binary

/-!
# Loose values

A `Value` is what a caller, a provider or a document may hand over before anything is known about
it. Snapshot handles, versions, scripted answers and documents are values; inside the library,
ticks and liquidity are integers.
-/

namespace TickWalk

/-- A value of any kind. Whole numbers have no bound, a map keeps its fields in order, and a buffer
holds bytes that may still change. -/
inductive Value
  | null
  | bool (b : Bool)
  | int (i : Int)
  | float (f : Float)
  | text (s : String)
  | bytes (b : List UInt8)
  | buffer (b : List UInt8)
  | list (items : List Value)
  | map (fields : List (String × Value))
deriving Inhabited

namespace Value

def field? (fields : List (String × Value)) (name : String) : Option Value :=
  (fields.reverse.find? (·.1 == name)).map (·.2)

/-- Everything counts as true but nothing, zero and the empty collections. -/
def truthy : Value → Bool
  | null => false
  | bool b => b
  | int i => i != 0
  | float f => !(Decimal.Parts.ofFloat f).isZero
  | text s => !s.isEmpty
  | bytes b => !b.isEmpty
  | buffer b => !b.isEmpty
  | list items => !items.isEmpty
  | map fields => !fields.isEmpty

/-- The name of the kind of a value, as messages call it. -/
def kindName : Value → String
  | null => "NoneType"
  | bool _ => "bool"
  | int _ => "int"
  | float _ => "float"
  | text _ => "str"
  | bytes _ => "bytes"
  | buffer _ => "bytearray"
  | list _ => "list"
  | map _ => "dict"

/-- Whether a value can name something: collections that may change cannot. -/
def isKey : Value → Bool
  | buffer _ => false
  | list _ => false
  | map _ => false
  | _ => true

end Value

end TickWalk
