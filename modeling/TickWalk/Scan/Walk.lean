import TickWalk.Provider
import TickWalk.Scan.Request
import TickWalk.Scan.Result
import TickWalk.Value.Bounds
import TickWalk.Value.Items

/-!
# The scan

`walk` follows the candidates of a provider: each one strictly inside the domain is fetched and
recorded, and the first other one ends the walk. `Scanner.scan` checks the request, lays out a slot for
every step, walks, reads the version once and pads the slots. A walk is at most as long as the number of
steps allowed, whatever the provider answers.
-/

namespace TickWalk

structure Scanner (σ : Type) where
  provider : Provider σ
  domain : KeyDomain

namespace Scanner

variable {σ : Type}

def source : String := "ticklens.scanner.tick_scanner"

/-- A domain that holds no tick strictly inside is refused when its bounds do not rise. -/
def create (provider : Provider σ) (domain : KeyDomain) : Except Failure (Scanner σ) :=
  if domain.maxKey ≤ domain.minKey then Failure.refuse (.emptyDomain domain)
  else .ok ⟨provider, domain⟩

/-- The records of at most `left` candidates from a cursor, `found` records being there already. -/
def walk (s : Scanner σ) (request : ScanRequest) :
    (left found : Nat) → (cursor : Value) → Action σ (List TickRecord)
  | 0, _, _ => pure []
  | left + 1, found, cursor => do
    let candidate ←
      s.provider.find request.snapshot cursor request.direction (.int request.spacing)
    let (flag, tick) ← Action.lift candidate.pair
    if ← Action.lift (s.domain.admits tick) then
      let stored ← s.provider.fetch request.snapshot tick
      let (gross, net) ← Action.lift stored.pair
      if !flag.truthy then
        Action.log .debug source s!"Recording uninitialized candidate tick {tick.display}"
      let record ← Action.lift (TickRecord.ofValues flag tick gross net)
      let next ← Action.lift (request.direction.advance tick)
      let rest ← walk s request left (found + 1) next
      pure (record :: rest)
    else do
      Action.log .debug source
        s!"Candidate tick {tick.display} reached domain bound after {found} ticks"
      pure []

/-- The slots of a scan: the records, then empty ones. -/
def slots (maxSteps : Nat) (records : List TickRecord) : List TickRecord :=
  records ++ List.replicate (maxSteps - records.length) TickRecord.empty

/-- The most slots that a list may have. -/
def slotLimit : Nat := Nat.pow 2 60 - 1

/-- The walk of a checked request, and the version after it. -/
def follow (s : Scanner σ) (request : ScanRequest) : Action σ ScanResult := do
  let records ← s.walk request request.maxSteps 0 (.int request.start)
  let version ← s.provider.version request.snapshot
  Action.log .debug source
    (s!"Scanned {records.length}/{request.maxSteps} ticks from {request.start} " ++
      s!"({request.direction.name}) at version {version.display}")
  pure ⟨slots request.maxSteps records, records.length, version, request.direction⟩

/-- The slots are laid out before anything is read. -/
def perform (s : Scanner σ) (request : ScanRequest) : Action σ ScanResult := do
  let _ ← Action.lift (copies slotLimit request.maxSteps)
  s.follow request

def scan (s : Scanner σ) (form : RequestForm) : Action σ ScanResult := do
  let request ← Action.lift (form.check s.domain)
  s.perform request

end Scanner

def scanTicks {σ : Type} (provider : Provider σ) (domain : KeyDomain) (form : RequestForm) :
    Action σ ScanResult := do
  let scanner ← Action.lift (Scanner.create provider domain)
  scanner.scan form

end TickWalk
