import TickWalk.Bitmap.Search
import TickWalk.Chain.Network
import TickWalk.Chain.Transport
import TickWalk.Provider
import TickWalk.Value.Items

/-!
# The view of a pool on the chain

A `StateView` reads one pool through the view contract. A snapshot is a block number, and every call
is made at that block. A call that fails is reported with its arguments and the block, and the
reason is kept.
-/

namespace TickWalk

structure StateView where
  transport : Transport
  contract : Address
  pool : PoolId

namespace StateView

def source : String := "ticklens.helpers.state_view"

/-- A view of a pool; the contract is the one given, or that of the environment or the chain. -/
def create (env : Environment) (transport : Transport) (pool contract chain : Value) :
    Except Failure StateView := do
  let pool ← PoolId.ofValue pool
  let given ←
    if contract.truthy then .ok contract else do .ok (.text (← Network.stateViewAddress env chain))
  let contract ← Address.ofContract given
  .ok ⟨transport, contract, pool⟩

/-- The block that a snapshot names: a number that is not negative, and no truth value. -/
def block : Value → Except Failure Nat
  | .int (.ofNat n) => .ok n
  | v => Failure.refuse (.unpinned v)

/-- Makes a call at a block. A failure is written to the journal and wrapped. -/
def call (v : StateView) (label : String) (c : Call) (block : Nat) : Action Node Value := do
  Action.lift (v.transport.admits c)
  match ← Action.attempt (v.transport.call v.contract v.pool c block) with
  | .ok answer => pure answer
  | .error cause =>
    let failure := Failure.readFailed label block cause
    let message ← Action.lift (Text.composed failure.shows failure.message)
    Action.log .error source message
    Action.fail failure

def word (v : StateView) (snapshot number : Value) : Action Node Int := do
  let block ← Action.lift (block snapshot)
  let label ← Action.lift (Text.composed [number] s!"getTickBitmap({number.display})")
  let n ← Action.lift number.toInteger
  let answer ← v.call label (.word n) block
  Action.lift answer.toInteger

structure Slot0 where
  sqrtPriceX96 : Int
  tick : Int
  protocolFee : Int
  lpFee : Int

def slot0 (v : StateView) (snapshot : Value) : Action Node Slot0 := do
  let block ← Action.lift (block snapshot)
  let answer ← v.call "getSlot0" .slot0 block
  match ← Action.lift (answer.unpack 4) with
  | [price, tick, protocolFee, lpFee] =>
    let price ← Action.lift price.toInteger
    let tick ← Action.lift tick.toInteger
    let protocolFee ← Action.lift protocolFee.toInteger
    let lpFee ← Action.lift lpFee.toInteger
    pure ⟨price, tick, protocolFee, lpFee⟩
  | vs => Action.fail (.tooFew 4 vs.length)

/-- The number of the latest block, or of the block that a reference means. -/
def pinBlock (v : StateView) (reference : Value) : Action Node Int := do
  let latest := match reference with
    | .text s => s == "latest"
    | _ => false
  let answer : Action Node Int := do
    let number ← if latest then v.transport.blockNumber else v.transport.block reference
    Action.lift number.toInteger
  match ← Action.attempt answer with
  | .ok n => pure n
  | .error cause => Action.fail (Failure.unresolvedBlock reference cause).told

def find (v : StateView) (snapshot cursor : Value) (direction : Direction) (spacing : Value) :
    Action Node Value := do
  let block ← Action.lift (block snapshot)
  let read (number : Int) := v.word (.int block) (.int number)
  let (initialized, tick) ← Bitmap.search read direction spacing cursor
  pure (.list [.bool initialized, .int tick])

def fetch (v : StateView) (snapshot tick : Value) : Action Node Value := do
  let block ← Action.lift (block snapshot)
  let label ← Action.lift (Text.composed [tick] s!"getTickLiquidity({tick.display})")
  let t ← Action.lift tick.toInteger
  let answer ← v.call label (.liquidity t) block
  let (gross, net) ← Action.lift answer.pair
  let gross ← Action.lift gross.toInteger
  let net ← Action.lift net.toInteger
  pure (.list [.int gross, .int net])

def version (snapshot : Value) : Action Node Value := do
  let block ← Action.lift (block snapshot)
  pure (.int block)

def provider (v : StateView) : Provider Node where
  answerFind := v.find
  answerFetch := v.fetch
  answerVersion := version

end StateView

end TickWalk
