import TickWalk.Abi.Interface
import TickWalk.Abi.Word
import TickWalk.Chain.Node
import TickWalk.Pool.Address
import TickWalk.Pool.Identifier

/-!
# Reaching a node

The contract is either at hand, and calls are put to the node as they are, or it is behind an
endpoint, and calls are encoded. Behind an endpoint arguments have to fit their types, and block
references are told apart before anything is sent.
-/

namespace TickWalk

inductive Transport
  | direct
  | endpoint (url : String)
deriving DecidableEq

inductive Call
  | slot0
  | word (number : Int)
  | liquidity (tick : Int)
deriving DecidableEq

namespace Call

def question : Call → Question
  | slot0 => .slot0
  | word _ => .word
  | liquidity _ => .liquidity

def function : Call → Abi.Function
  | slot0 => Abi.getSlot0
  | word _ => Abi.getTickBitmap
  | liquidity _ => Abi.getTickLiquidity

def arguments : Call → List Int
  | slot0 => []
  | word number => [number]
  | liquidity tick => [tick]

def fits : Call → Bool
  | slot0 => true
  | word number => Abi.fits 16 number
  | liquidity tick => Abi.fits 24 tick

def data (c : Call) (pool : PoolId) : String :=
  String.ofList ('0' :: 'x' :: Text.hexOfBytes
    (c.function.selector ++ pool.bytes ++ c.arguments.flatMap Abi.signedWord))

def answer (c : Call) (block : Int) (p : Pool) : Value :=
  match c with
  | slot0 => p.slot0
  | word number => .int (p.wordAt block number)
  | liquidity tick => p.liquidityAt block tick

end Call

/-- A number as endpoints are told it. -/
def quantity (n : Nat) : String := String.ofList ('0' :: 'x' :: Nat.toDigits 16 n)

/-- What a block reference means to an endpoint. -/
inductive BlockReference
  | tag (name : String)
  | number (n : Nat) (written : String)

namespace BlockReference

/-- The references that have a meaning without being a number. -/
def tags : List String := ["latest", "pending", "earliest", "safe", "finalized"]

def ofText (given : Value) (s : String) : Except Failure BlockReference :=
  if tags.contains s then .ok (tag s)
  else
    match Address.numberOfHex? (Text.afterMark s.toList) with
    | some n =>
      if (Text.afterMark s.toList).isEmpty || Nat.pow 2 256 ≤ n then .error (.unrecognizedBlock given)
      else .ok (number n s)
    | none => .error (.unrecognizedBlock given)

def ofValue : Value → Except Failure BlockReference
  | .text s => ofText (.text s) s
  | .int (.ofNat n) =>
    if n < Nat.pow 2 256 then .ok (number n (quantity n)) else .error (.unrecognizedBlock (.int n))
  | .int i => .error (.unrecognizedBlock (.int i))
  | .bytes b => .error (.unrecognizedBlock (.bytes b))
  | v => .error (.unrecognizedReference v)

def text : BlockReference → String
  | tag name => name
  | number _ written => written

/-- The number of the block; a tag has to be one that the node knows. -/
def resolve (r : BlockReference) (p : Pool) : Except Failure Value :=
  match r with
  | number n _ => .ok (.int n)
  | tag name =>
    match p.blocks.reverse.lookup name with
    | some v => .ok v
    | none => .error (.blockNotFound name)

end BlockReference

namespace Transport

def callRead (t : Transport) (contract : Address) (pool : PoolId) (c : Call) (block : Nat) :
    ChainRead :=
  match t with
  | direct =>
    ⟨none, c.function.name, .bytes pool.bytes :: c.arguments.map .int ++ [.int block]⟩
  | endpoint url =>
    ⟨some url, "eth_call",
      [.text contract.checksum, .text (c.data pool), .text (quantity block)]⟩

def admits (t : Transport) (c : Call) : Except Failure Unit :=
  match t with
  | direct => .ok ()
  | endpoint _ => if c.fits then .ok () else .error .argumentOutOfRange

def call (t : Transport) (contract : Address) (pool : PoolId) (c : Call) (block : Nat) :
    Action Node Value := do
  Action.note (.chain (t.callRead contract pool c block))
  Node.ask c.question fun p => .ok (c.answer block p)

def blockNumber (t : Transport) : Action Node Value :=
  let question := Node.ask .blockNumber fun p => .ok p.blockNumber
  match t with
  | direct => do
    Action.note (.chain ⟨none, "blockNumber", []⟩)
    question
  | endpoint url => do
    Action.note (.chain ⟨some url, "eth_blockNumber", []⟩)
    match ← Action.attempt question with
    | .ok v => pure v
    | .error e =>
      Action.note (.chain ⟨none, "blockNumber", []⟩)
      Action.fail e

def block (t : Transport) (reference : Value) : Action Node Value :=
  match t with
  | direct => do
    Action.note (.chain ⟨none, "getBlock", [reference]⟩)
    Node.ask .block fun p =>
      match p.blocks.reverse.lookup reference.display with
      | some v => .ok v
      | none => .error (.noBlock reference.display)
  | endpoint url => do
    let r ← Action.lift (BlockReference.ofValue reference)
    Action.note (.chain ⟨some url, "eth_getBlockByNumber", [.text r.text]⟩)
    Node.ask .block r.resolve

end Transport

end TickWalk
