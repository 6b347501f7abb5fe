import TickWalk.Load.Band
import TickWalk.Scan.Walk

/-!
# Loading in batches

`loadTicks` collects ticks in one direction by scans of at most `batch` steps, each going on after
the last tick of the one before, until `count` ticks are there or a scan stops at a bound. Every
scan has to report the same version; the first one sets it unless the caller does.
-/

namespace TickWalk

structure LoadRequest where
  snapshot : Value
  start : Value
  direction : Direction
  spacing : Value
  count : Value
  batch : Value
  expected : Option Value

structure Loaded where
  records : List TickRecord
  version : Option Value
  batches : Nat

namespace LoadRequest

variable {σ : Type}

def source : String := "ticklens.helpers.tick_loader"

/-- The steps of the next batch: what is missing, or the batch size if that is not more. -/
def steps (r : LoadRequest) (got : Nat) : Except Failure Value := do
  let missing ← r.count.minus got
  if ← missing.less r.batch then .ok missing else .ok r.batch

/-- A bound on the number of batches that load `count` ticks, each at least one. -/
def fuel (r : LoadRequest) : Nat :=
  match r.count with
  | .float f =>
    match Decimal.Parts.ofFloat f with
    | .infinite false => Nat.pow 2 60
    | p => ((p.truncate?.getD 0) + 1).toNat
  | v => ((v.whole?).getD 0).toNat

/-- The version that all batches have to report, after one that reported `observed`. -/
def agreed (known : Option Value) (observed : Value) : Except Failure Value :=
  match known with
  | none => .ok observed
  | some expected =>
    if observed.same expected then .ok expected
    else Failure.refuse (.versionChanged expected observed)

def loop (scanner : Scanner σ) (r : LoadRequest) :
    (fuel : Nat) → (cursor : Value) → Loaded → Action σ Loaded
  | 0, _, loaded => pure loaded
  | fuel + 1, cursor, loaded => do
    if ← Action.lift ((Value.int loaded.records.length).less r.count) then
      let steps ← Action.lift (r.steps loaded.records.length)
      let result ← scanner.scan ⟨r.snapshot, cursor, .ok r.direction, steps, r.spacing⟩
      let version ← Action.lift (agreed loaded.version result.version)
      let loaded := ⟨loaded.records ++ result.validTicks, some version, loaded.batches + 1⟩
      match result.exhausted, result.lastTick? with
      | false, some last => loop scanner r fuel (.int (r.direction.nextCursor last)) loaded
      | _, _ => pure loaded
    else pure loaded

/-- A count is not negative, and a batch has at least one step. -/
def check (r : LoadRequest) : Except Failure Unit := do
  if ← r.count.less (.int 0) then Failure.refuse (.negativeCount r.count)
  else if ← r.batch.atMost (.int 0) then Failure.refuse (.batchNotPositive r.batch)
  else .ok ()

end LoadRequest

/-- Loads ticks in one direction; the version is asked for when no batch has told it. -/
def loadTicks {σ : Type} (scanner : Scanner σ) (r : LoadRequest) :
    Action σ (List TickRecord × Value) := do
  Action.lift r.check
  let loaded ← r.loop scanner r.fuel r.start ⟨[], r.expected, 0⟩
  let version ←
    match loaded.version with
    | some version => pure version
    | none => scanner.provider.version r.snapshot
  Action.log .debug LoadRequest.source
    (s!"Loaded {loaded.records.length} {r.direction.name} ticks from {r.start.display} " ++
      s!"in {loaded.batches} batches")
  pure (loaded.records, version)

structure BandRequest where
  snapshot : Value
  current : Value
  spacing : Value
  band : Value
  batch : Value

/-- Loads both sides of the active tick, the lower side with the tick itself; the version of the
lower side is expected on the upper one. -/
def loadBand {σ : Type} (scanner : Scanner σ) (r : BandRequest) : Action σ TickBand := do
  let side (direction : Direction) (expected : Option Value) : LoadRequest :=
    ⟨r.snapshot, r.current, direction, r.spacing, r.band, r.batch, expected⟩
  let (below, version) ← loadTicks scanner (side .inclusive none)
  let (above, _) ← loadTicks scanner (side .exclusive (some version))
  let line ← Action.lift (Text.composed [r.current, version]
    (s!"Loaded tick band around {r.current.display}: {below.length} below, " ++
      s!"{above.length} above (version {version.display})"))
  Action.log .info LoadRequest.source line
  pure ⟨r.current, below, above, version⟩

end TickWalk
