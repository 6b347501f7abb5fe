import TickWalk.Action
import TickWalk.Bitmap.Position
import TickWalk.Value.Integer
import TickWalk.Value.Number

/-!
# Nodes

A node holds the state of one pool and answers questions about it at a block. What it answers are
loose values. A fault makes it fail a kind of question, every time or at one occasion only; for that
the node counts the questions of each kind.
-/

namespace TickWalk

inductive Question
  | slot0
  | word
  | liquidity
  | blockNumber
  | block
deriving DecidableEq

namespace Question

def name : Question → String
  | slot0 => "getSlot0"
  | word => "getTickBitmap"
  | liquidity => "getTickLiquidity"
  | blockNumber => "blockNumber"
  | block => "getBlock"

end Question

/-- What a node raises, and at which question of its kind. -/
structure Fault where
  kind : String
  message : String
  occasion : Option Int

structure NodeTick where
  tick : Int
  gross : Value
  net : Value

structure Pool where
  spacing : Int
  ticks : List NodeTick
  ticksAt : List (String × List NodeTick)
  words : Option (List (Int × Int))
  slot0 : Value
  blockNumber : Value
  blocks : List (String × Value)
  faults : List (String × Fault)

/-- A node that has been asked some questions already. -/
structure Node where
  pool : Pool
  asked : List Question

namespace Pool

/-- The ticks at a block, which may have a list of its own. -/
def ticksOf (p : Pool) (block : Int) : List NodeTick :=
  (p.ticksAt.reverse.lookup (toString block)).getD p.ticks

def wordOfTicks (spacing : Int) (ticks : List NodeTick) (number : Int) : Nat :=
  ticks.foldl
    (fun word t =>
      let p := Bitmap.position (t.tick.fdiv spacing)
      if p.word = number then word ||| 1 <<< p.bit else word)
    0

def wordAt (p : Pool) (block number : Int) : Int :=
  match p.words with
  | some words => (words.reverse.lookup number).getD 0
  | none => wordOfTicks p.spacing (p.ticksOf block) number

/-- Gross and net liquidity at a tick, nothing where no tick is. -/
def liquidityAt (p : Pool) (block tick : Int) : Value :=
  match (p.ticksOf block).reverse.find? (·.tick == tick) with
  | some t => .list [t.gross, t.net]
  | none => .list [.int 0, .int 0]

/-- The fault of a question that has been asked `count` times, this one included. -/
def faultOf? (p : Pool) (q : Question) (count : Nat) : Option Fault :=
  match p.faults.reverse.lookup q.name with
  | some f =>
    match f.occasion with
    | none => some f
    | some n => if n = count then some f else none
  | none => none

end Pool

namespace Node

def start (p : Pool) : Node := ⟨p, []⟩

/-- Asks a question: it is counted, and answered unless the node has a fault. -/
def ask (q : Question) (answer : Pool → Except Failure Value) : Action Node Value := do
  let node ← Action.get
  let asked := q :: node.asked
  Action.set { node with asked := asked }
  match node.pool.faultOf? q (asked.count q) with
  | some f => Action.fail (.raised f.kind f.message)
  | none => Action.lift (answer node.pool)

end Node

end TickWalk
