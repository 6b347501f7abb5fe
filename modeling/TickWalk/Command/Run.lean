import TickWalk.Chain.StateView
import TickWalk.Command.Arguments
import TickWalk.Document.Encode
import TickWalk.Load.Batches
import TickWalk.Options.Help
import TickWalk.Pool.Key
import TickWalk.Pool.Price
import TickWalk.Table

/-!
# Running commands

A command resolves its pool and its block, reads what it needs, and only then prints its result. A
failure while it prints, of an integer too long for a table, leaves what is printed already. Failures of
scans and of values given are reported and end the run with code one; every other failure goes through to
the caller.
-/

namespace TickWalk

/-- Whether a command reports a failure: everything that is wrong with a value given, a request or a
chain read. -/
def Failure.isReported : Failure → Bool
  | wrongKind => false
  | notIntegral _ => false
  | infinity => false
  | missingField _ => false
  | indexOutOfRange => false
  | divisionByZero => false
  | notEncodable => false
  | priceTooHigh => false
  | noLowercase => false
  | argumentOutOfRange => false
  | unrecognizedReference _ => false
  | blockNotFound _ => false
  | noBlock _ => false
  | directoryMissing => false
  | isDirectory => false
  | raised _ _ => false
  | _ => true

namespace Command

def source : String := "ticklens"

/-- A text that is given and not empty. -/
def given? (s : Option String) : Option String := s.filter (!·.isEmpty)

namespace PoolArguments

/-- The pool as text: the identifier that is given, or that of the key. -/
def resolve (a : PoolArguments) : Except Failure String :=
  match given? a.poolId with
  | some id => .ok id
  | none =>
    match given? a.currency0, given? a.currency1, a.fee with
    | some currency0, some currency1, some fee => do
      let key ← PoolKey.ofValues (.text currency0) (.text currency1) (.int fee) (.int a.spacing)
        (.text a.hooks)
      .ok (← key.identifier).text
    | _, _, _ => .error .poolNotNamed

def valueOf (s : Option String) : Value :=
  match s with
  | some t => .text t
  | none => .null

def view (env : Environment) (a : PoolArguments) : Except Failure StateView := do
  let url ← Network.endpoint env (valueOf a.rpcUrl) (valueOf a.chain)
  let pool ← a.resolve
  StateView.create env (.endpoint url) (.text pool) (valueOf a.stateView) (valueOf a.chain)

def blockReference (a : PoolArguments) : Value :=
  match a.block with
  | some n => .int n
  | none => .text "latest"

end PoolArguments

/-- The tick that is given, or the active one at the block. -/
def tickAt (v : StateView) (block : Int) (given : Option Int) : Action Node Int :=
  match given with
  | some t => pure t
  | none => do
    let slot ← v.slot0 (.int block)
    let line ← Action.lift (Text.composed [.int slot.tick, .int block]
      s!"Using active tick {slot.tick} at block {block}")
    Action.log .info source line
    pure slot.tick

/-- Prints lines below those that have been printed. -/
def print (lines : List String) : Action (List String) Unit := do
  let printed ← Action.get
  Action.set (printed ++ lines)

def recordTable (records : List TickRecord) : Except Failure (List String) := do
  let ticks ← Table.Column.ofIntegers "Tick" (records.map (·.tick))
  let gross ← Table.Column.ofIntegers "Liquidity Gross" (records.map (·.gross))
  let net ← Table.Column.ofIntegers "Liquidity Net" (records.map (·.net))
  .ok (Table.grid records.length [
    ticks,
    .ofTruths "Initialized" (records.map (·.initialized)),
    gross,
    net,
    .ofDecimals "Price (raw)" (records.map fun r => Price.shown r.tick)])

/-- Prints records under a title, which stands there before the table is made. -/
def printRecords (records : List TickRecord) (title : String) : Action (List String) Unit := do
  print [title]
  if records.isEmpty then print ["  (none found within domain)"]
  else do print (← Action.lift (recordTable records))

def printScan (a : ScanArguments) (block start : Int) (r : ScanResult) :
    Action (List String) Unit := do
  if a.pool.json then do print [← Action.lift (r.loose.json .standard)]
  else
    let title ← Action.lift (Text.composed [.int r.validTo, .int a.steps, .int start, .int block]
      s!"{r.validTo}/{a.steps} ticks from {start} ({a.direction.name}) at block {block}")
    printRecords r.validTicks title
    if r.exhausted then print ["Reached the tick domain bound before filling every slot."]

def printBand (a : BandArguments) (block current : Int) (b : TickBand) :
    Action (List String) Unit := do
  if a.pool.json then do
    let document ← Action.lift b.document
    print [← Action.lift (Json.write .standard document)]
  else
    let below ← Action.lift (Text.composed [.int current, .int block]
      s!"Below {current} (inclusive), block {block}:")
    printRecords b.below below
    let above ← Action.lift (Text.composed [.int current, .int block]
      s!"Above {current}, block {block}:")
    printRecords b.above above

/-- What a command has printed, and what has stopped it, if anything has. -/
structure Printout where
  text : String
  stopped : Option Failure

def linesOf (lines : List String) : String := String.join (lines.map (· ++ "\n"))

def Printout.of (printing : Action (List String) Unit) : Printout :=
  let o := printing.run []
  match o.result with
  | .ok _ => ⟨linesOf o.state, none⟩
  | .error e => ⟨linesOf o.state, some e⟩

def ScanArguments.request (a : ScanArguments) (block start : Int) : RequestForm :=
  ⟨.int block, .int start, .ok a.direction, .int a.steps, .int a.pool.spacing⟩

def BandArguments.request (a : BandArguments) (block current : Int) : BandRequest :=
  ⟨.int block, .int current, .int a.pool.spacing, .int a.band, .int a.batch⟩

def runScan (env : Environment) (a : ScanArguments) : Action Node Printout := do
  let view ← Action.lift (a.pool.view env)
  let block ← view.pinBlock a.pool.blockReference
  let start ← tickAt view block a.start
  let scanner ← Action.lift (Scanner.create view.provider .ticks)
  let result ← scanner.scan (a.request block start)
  pure (.of (printScan a block start result))

def runBand (env : Environment) (a : BandArguments) : Action Node Printout := do
  let view ← Action.lift (a.pool.view env)
  let block ← view.pinBlock a.pool.blockReference
  let current ← tickAt view block a.current
  let scanner ← Action.lift (Scanner.create view.provider .ticks)
  let band ← loadBand scanner (a.request block current)
  pure (.of (printBand a block current band))

def run (env : Environment) : Invocation → Action Node Printout
  | .scan a => runScan env a
  | .band a => runBand env a

/-- How a run of the program ends: with its code or a failure that nobody reports, after it has
written its output. -/
structure Report where
  exit : Except Failure Int
  output : String

/-- Ends a run that has failed after some output. -/
def conclude (output : String) (e : Failure) : Action Node Report := do
  if e.isReported then
    Action.log .error source s!"Error: {e.message}"
    pure ⟨.ok 1, output⟩
  else pure ⟨.error e, output⟩

def perform (env : Environment) (i : Invocation) : Action Node Report := do
  match ← Action.attempt (run env i) with
  | .ok ⟨text, none⟩ => pure ⟨.ok 0, text⟩
  | .ok ⟨text, some e⟩ => conclude text e
  | .error e => conclude "" e

end Command

end TickWalk
