import TickWalk.Chain.Description
import TickWalk.Command.Session
import TickWalk.Json.Read

/-!
# The command line program

The node is described by the JSON file that `TICKLENS_NODE` names; chain, endpoint and contract may
come from the environment.
-/

open TickWalk

def readEnvironment : IO Environment := do
  let chain ← IO.getEnv "CHAIN"
  let rpcUrl ← IO.getEnv "RPC_URL"
  let stateView ← IO.getEnv "STATE_VIEW_ADDRESS"
  return ⟨chain, rpcUrl, stateView⟩

/-- The node that the environment names; one without ticks if it names none. -/
def readNode : IO Node := do
  match ← IO.getEnv "TICKLENS_NODE" with
  | some path =>
    let text ← IO.FS.readFile path
    return Node.start (Pool.ofValue ((Json.read? text).getD .null))
  | none => return Node.start (Pool.ofValue .null)

def main (args : List String) : IO UInt32 := do
  let s := Command.session (← readEnvironment) args (← readNode)
  IO.print s.stdout
  IO.eprint s.stderr
  match s.exit with
  | .ok code => return UInt32.ofNat code.toNat
  | .error e =>
    IO.eprintln e.message
    return 1
