import TickWalk.Direction
import TickWalk.Options.Read

/-!
# The commands and their arguments

Two commands are known: `scan` walks from one tick in one direction, `band` loads both sides of a
tick. Both name the pool in the same way, by its identifier or by its key.
-/

namespace TickWalk.Command

open Options

structure PoolArguments where
  poolId : Option String
  currency0 : Option String
  currency1 : Option String
  fee : Option Int
  hooks : String
  spacing : Int
  block : Option Int
  chain : Option String
  rpcUrl : Option String
  stateView : Option String
  json : Bool
  debug : Bool
deriving DecidableEq

structure ScanArguments where
  pool : PoolArguments
  start : Option Int
  direction : Direction
  steps : Int
deriving DecidableEq

structure BandArguments where
  pool : PoolArguments
  current : Option Int
  band : Int
  batch : Int
deriving DecidableEq

inductive Invocation
  | scan (arguments : ScanArguments)
  | band (arguments : BandArguments)
deriving DecidableEq

/-- The hooks of a pool that has none. -/
def noHooks : String := "0x0000000000000000000000000000000000000000"

def textItem (name about : String) : Item := ⟨[name], .text, false, about⟩

def integerItem (name about : String) : Item := ⟨[name], .integer, false, about⟩

def flagItem (name about : String) : Item := ⟨[name], .flag, false, about⟩

def poolItems : List Item := [
  helpItem,
  textItem "--pool-id" "PoolId (bytes32 hex)",
  textItem "--currency0" "Pool currency0 (when --pool-id is not given)",
  textItem "--currency1" "Pool currency1 (when --pool-id is not given)",
  integerItem "--fee" "Pool LP fee (when --pool-id is not given)",
  textItem "--hooks" "Pool hooks address (default: none)",
  ⟨["--tick-spacing"], .integer, true, "Pool tick spacing"⟩,
  integerItem "--block" "Block to read (default: latest)",
  textItem "--chain" "Chain name or id (default: $CHAIN or ethereum)",
  textItem "--rpc-url" "RPC endpoint (default: $RPC_URL or chain default)",
  textItem "--state-view" "StateView address override",
  flagItem "--json" "Print results as JSON",
  flagItem "--debug" "Verbose logging"]

def scanForm : Form where
  program := "ticklens scan"
  items := poolItems ++ [
    integerItem "--start-tick" "Start tick (default: active tick)",
    ⟨["--direction"], .choice ["exclusive", "inclusive"], false,
      "inclusive walks down from the start tick, exclusive walks up"⟩,
    integerItem "--steps" s!"Ticks to return (default: {defaultBatch})"]

def bandForm : Form where
  program := "ticklens band"
  items := poolItems ++ [
    integerItem "--current-tick" "Centre tick (default: active tick)",
    integerItem "--band" s!"Ticks per side (default: {defaultBand})",
    integerItem "--batch" s!"Ticks per scan call (default: {defaultBatch})"]

def menu : Menu where
  form := ⟨"ticklens", [helpItem]⟩
  about := "Scan initialized ticks of a Uniswap v4 pool"
  commands := [
    ⟨"scan", "Walk initialized ticks from a start tick", scanForm⟩,
    ⟨"band", "Load ticks on both sides of a tick", bandForm⟩]

def PoolArguments.ofSettings (s : Settings) : PoolArguments where
  poolId := s.text? "--pool-id"
  currency0 := s.text? "--currency0"
  currency1 := s.text? "--currency1"
  fee := s.integer? "--fee"
  hooks := (s.text? "--hooks").getD noHooks
  spacing := (s.integer? "--tick-spacing").getD 0
  block := s.integer? "--block"
  chain := s.text? "--chain"
  rpcUrl := s.text? "--rpc-url"
  stateView := s.text? "--state-view"
  json := s.isSet "--json"
  debug := s.isSet "--debug"

namespace Invocation

def ofSettings (name : String) (s : Settings) : Invocation :=
  let pool := PoolArguments.ofSettings s
  if name = "scan" then
    .scan {
      pool
      start := s.integer? "--start-tick"
      direction := ((s.text? "--direction").bind Direction.ofName?).getD .exclusive
      steps := (s.integer? "--steps").getD defaultBatch }
  else
    .band {
      pool
      current := s.integer? "--current-tick"
      band := (s.integer? "--band").getD defaultBand
      batch := (s.integer? "--batch").getD defaultBatch }

def pool : Invocation → PoolArguments
  | scan a => a.pool
  | band a => a.pool

end Invocation

def read (args : List String) : Except Stop (Option Invocation) := do
  match ← menu.read args with
  | some (name, settings) => .ok (some (Invocation.ofSettings name settings))
  | none => .ok none

end TickWalk.Command
