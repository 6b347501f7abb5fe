import TickWalk.Scan.Result
import TickWalk.Value.Items

/-!
# Results from documents

`ScanResult.ofDocument` reads a result back. Numbers may be spelled in any way that stands for an
integer; the count of filled slots has to fit the slots.
-/

namespace TickWalk

namespace Document

def field (data : Value) (name : String) : Except Failure Value :=
  match data with
  | .map fields =>
    match Value.field? fields name with
    | some v => .ok v
    | none => .error (.missingField name)
  | _ => .error .wrongKind

/-- A direction by its name; upward when the document does not tell. -/
def direction (data : Value) : Except Failure Direction :=
  match data with
  | .map fields =>
    match Value.field? fields "direction" with
    | none => .ok .exclusive
    | some (.text name) =>
      match Direction.ofName? name with
      | some d => .ok d
      | none => .error .unknownDirection
    | some _ => .error .unknownDirection
  | _ => .error .wrongKind

end Document

/-- A record from its document; the fields are looked up and converted one by one. -/
def TickRecord.ofDocument (data : Value) : Except Failure TickRecord := do
  let initialized ← Document.field data "initialized"
  let tick ← (← Document.field data "tick").toInteger
  let gross ← (← Document.field data "liquidityGross").toInteger
  let net ← (← Document.field data "liquidityNet").toInteger
  .ok ⟨initialized.truthy, tick, gross, net⟩

def ScanResult.ofDocument (data : Value) : Except Failure ScanResult := do
  let ticks ← (← (← Document.field data "ticks").items).mapM TickRecord.ofDocument
  let validTo ← (← Document.field data "validTo").toInteger
  if validTo < 0 || ticks.length < validTo then
    Failure.refuse (.validToOutside validTo ticks.length)
  else
    let version ← Document.field data "blockNumber"
    let direction ← Document.direction data
    .ok ⟨ticks, validTo.toNat, version, direction⟩

end TickWalk
