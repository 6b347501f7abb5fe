import TickWalk.Proofs.Chain.Reads

/-!
# Reads at one block

A view takes the number of a block as its snapshot. Whatever it is asked there, all chain reads are at
this block, and the version it reports is the block. The one exception is a load that has been told which
version to expect: it reports what it was told, having compared the block with it after each batch.
At any other snapshot nothing is read from the chain, and whoever comes to ask the view is told so.
-/

namespace TickWalk

variable {σ α β : Type}

namespace Action

end Action

/-! ### Operations -/

/-- What a view can be asked at a snapshot. Scans and loads bring a domain, and a load may bring the
version that it is to expect. -/
inductive Operation
  | slot0
  | word (number : Value)
  | find (cursor : Value) (direction : Direction) (spacing : Value)
  | fetch (tick : Value)
  | version
  | scan (domain : KeyDomain) (start : Value) (direction : Except Value Direction)
      (maxSteps spacing : Value)
  | load (domain : KeyDomain) (start : Value) (direction : Direction) (spacing count batch : Value)
      (expected : Option Value)
  | band (domain : KeyDomain) (current spacing width batch : Value)

namespace Operation

def expected : Operation → Option Value
  | load _ _ _ _ _ _ expected => expected
  | _ => none

/-- Does the operation, over a node that changes before every read of the provider. The answer is the
version that the operation reports, if it reports one. -/
def act (v : StateView) (change : Read → Node → Node) (snapshot : Value) :
    Operation → Action Node (Option Value)
  | slot0 => do
    let _ ← v.slot0 snapshot
    pure none
  | word number => do
    let _ ← v.word snapshot number
    pure none
  | find cursor direction spacing => do
    let _ ← (v.provider.stirred change).find snapshot cursor direction spacing
    pure none
  | fetch tick => do
    let _ ← (v.provider.stirred change).fetch snapshot tick
    pure none
  | version => do
    let version ← (v.provider.stirred change).version snapshot
    pure (some version)
  | scan domain start direction maxSteps spacing => do
    let result ← Scanner.scan ⟨v.provider.stirred change, domain⟩
      ⟨snapshot, start, direction, maxSteps, spacing⟩
    pure (some result.version)
  | load domain start direction spacing count batch expected => do
    let loaded ← loadTicks ⟨v.provider.stirred change, domain⟩
      ⟨snapshot, start, direction, spacing, count, batch, expected⟩
    pure (some loaded.2)
  | band domain current spacing width batch => do
    let loaded ← loadBand ⟨v.provider.stirred change, domain⟩
      ⟨snapshot, current, spacing, width, batch⟩
    pure (some loaded.version)

end Operation

namespace StateView

variable {v : StateView} {snapshot : Value} {block : Nat} {domain : KeyDomain}

/-! ### Chain reads at the block of a snapshot -/

/-- A chain read that is some call at the block of the snapshot. -/
def ReadsAt (v : StateView) (snapshot : Value) (read : ChainRead) : Prop :=
  ∃ block c, StateView.block snapshot = .ok block ∧ read = v.readOf block c

lemma confines_readsAt (v : StateView) (domain : KeyDomain) (snapshot : Value) :
    v.Confines domain snapshot (fun _ => True) (v.ReadsAt snapshot) (fun _ => True) := by
  constructor
  case unpinned => exact fun _ _ => trivial
  case untold => exact fun _ _ _ _ _ => trivial
  case read => exact fun c block _ hblock _ => ⟨block, c, hblock, rfl⟩
  case refusedCall => exact fun _ _ _ _ => trivial
  case failed => exact fun _ _ _ _ _ => trivial
  case undecoded => exact fun _ _ _ _ _ _ => trivial

section

variable {e : Failure} (hblock : StateView.block snapshot = .error e)

include hblock

end

/-! ### Versions that are reported -/

section

variable {change : Read → Node → Node}

lemma version_of_scan {form : RequestForm} {result : ScanResult}
    (h : (Scanner.scan ⟨v.provider.stirred change, domain⟩ form).MayAnswer result) :
    result.version = form.snapshot := by
  obtain ⟨request, records, -, -, htold, -⟩ := Scanner.exists_walk_of_scan h
  exact eq_of_version htold

lemma version_of_knows {r : LoadRequest} {version : Value}
    (h : r.Knows (v.provider.stirred change) (some version)) :
    version = r.expected.getD r.snapshot := by
  rcases h with hexpected | ⟨hnone, told, hsome, htold⟩
  · rw [← hexpected]
    rfl
  · rw [hnone, Option.some.inj hsome, eq_of_version htold]
    rfl

lemma version_of_loadTicks {r : LoadRequest} {answer : List TickRecord × Value}
    (h : (loadTicks ⟨v.provider.stirred change, domain⟩ r).MayAnswer answer) :
    answer.2 = r.expected.getD r.snapshot :=
  version_of_knows (LoadRequest.knows_of_loadTicks h)

lemma version_of_loadBand {r : BandRequest} {loaded : TickBand}
    (h : (loadBand ⟨v.provider.stirred change, domain⟩ r).MayAnswer loaded) :
    loaded.version = r.snapshot := by
  obtain ⟨below, hbelow, hrest⟩ := Action.exists_mayAnswer_of_bind h
  obtain ⟨above, -, hrest⟩ := Action.exists_mayAnswer_of_bind hrest
  obtain ⟨_, -, hrest⟩ := Action.exists_mayAnswer_of_bind hrest
  obtain ⟨_, -, hrest⟩ := Action.exists_mayAnswer_of_bind hrest
  rw [← Except.ok.inj (Action.eq_ok_of_mayAnswer hrest)]
  exact version_of_loadTicks hbelow

end

section

variable {change : Read → Node → Node} {op : Operation} {node : Node} {version : Value}

end

end StateView

end TickWalk
