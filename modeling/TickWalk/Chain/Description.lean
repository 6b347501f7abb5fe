import TickWalk.Chain.Node
import TickWalk.Text.Hex

/-!
# Nodes from descriptions

A node is described by a map: the spacing and the ticks of its pool, ticks of single blocks, bitmap
words, the active state, block numbers, and faults. Only the spacing has to be there.
-/

namespace TickWalk.Pool

def fieldsOf : Value → List (String × Value)
  | .map fields => fields
  | _ => []

def itemsOf : Value → List Value
  | .list vs => vs
  | _ => []

def integerOf (v : Value) : Int := v.whole?.getD 0

/-- A word in hexadecimal with its mark, behind a minus sign when it is negative. -/
def wordOf : Value → Int
  | .text s =>
    let number (ds : List Char) : Int :=
      ds.foldl (fun n c => n * 16 + (((Text.hexValue? c).getD 0 : Nat) : Int)) 0
    match s.toList with
    | '-' :: ds => -number (Text.afterMark ds)
    | ds => number (Text.afterMark ds)
  | v => integerOf v

def tickOf : Value → Option NodeTick
  | .list [tick, gross, net] => some ⟨integerOf tick, gross, net⟩
  | _ => none

def ticksFrom (v : Value) : List NodeTick := (itemsOf v).filterMap tickOf

def wordsFrom (v : Value) : List (Int × Int) :=
  (itemsOf v).filterMap fun w =>
    match w with
    | .list [number, word] => some (integerOf number, wordOf word)
    | _ => none

def faultOf : Value → Option Fault
  | .list [.text kind, .text message] => some ⟨kind, message, none⟩
  | .list [.text kind, .text message, n] => some ⟨kind, message, n.whole?⟩
  | _ => none

/-- The active state of a pool at price one. -/
def defaultSlot0 : Value := .list [.int (Nat.pow 2 96 : Nat), .int 0, .int 0, .int 500]

/-- The latest block unless the description tells another. -/
def defaultBlock : Value := .int 1000

def ofValue (v : Value) : Pool :=
  let fields := fieldsOf v
  let get (name : String) : Value := (Value.field? fields name).getD .null
  let getOr (name : String) (default : Value) : Value := (Value.field? fields name).getD default
  { spacing := integerOf (get "spacing")
    ticks := ticksFrom (get "ticks")
    ticksAt := (fieldsOf (get "ticks_at")).map fun f => (f.1, ticksFrom f.2)
    words := match get "words" with
      | .null => none
      | ws => some (wordsFrom ws)
    slot0 := getOr "slot0" defaultSlot0
    blockNumber := getOr "block_number" defaultBlock
    blocks := fieldsOf (get "blocks")
    faults := (fieldsOf (get "fail")).filterMap fun f => (faultOf f.2).map (f.1, ·) }

end TickWalk.Pool
