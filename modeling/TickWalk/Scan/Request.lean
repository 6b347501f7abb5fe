import TickWalk.Direction

/-!
# Scan requests

A `RequestForm` is what a caller hands in. `RequestForm.read` turns it into a `ScanRequest`, or says
what is wrong with the first field that is not usable; a truth value is no number here.
-/

namespace TickWalk

/-- A request as handed in; a direction that is none is kept as it came. -/
structure RequestForm where
  snapshot : Value
  start : Value
  direction : Except Value Direction
  maxSteps : Value
  spacing : Value

/-- Walk up to `maxSteps` candidates from `start`. -/
structure ScanRequest where
  snapshot : Value
  start : Int
  direction : Direction
  maxSteps : Nat
  spacing : Int

namespace RequestForm

/-- Direction, steps, spacing and start are looked at in this order. -/
def read (form : RequestForm) (domain : KeyDomain) : Except RequestFault ScanRequest :=
  match form.direction with
  | .error given => .error (.direction given)
  | .ok direction =>
    match form.maxSteps with
    | .int (.ofNat maxSteps) =>
      match form.spacing with
      | .int spacing =>
        if spacing ≤ 0 then .error (.spacing form.spacing)
        else
          match form.start with
          | .int start =>
            if domain.contains start then .ok ⟨form.snapshot, start, direction, maxSteps, spacing⟩
            else .error (.startOutside start domain)
          | given => .error (.start given)
      | given => .error (.spacing given)
    | given => .error (.maxSteps given)

/-- A form that cannot be read is refused with what is wrong with it. -/
def check (form : RequestForm) (domain : KeyDomain) : Except Failure ScanRequest :=
  match form.read domain with
  | .ok request => .ok request
  | .error fault => Failure.refuse (.request fault)

end RequestForm

/-- The form that a request was checked from. -/
def ScanRequest.form (r : ScanRequest) : RequestForm :=
  ⟨r.snapshot, .int r.start, .ok r.direction, .int r.maxSteps, .int r.spacing⟩

end TickWalk
