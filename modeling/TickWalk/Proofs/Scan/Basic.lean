import TickWalk.Proofs.Failure
import TickWalk.Proofs.Action
import Mathlib.Tactic.Lemma
import Mathlib.Tactic.SplitIfs

/-!
# Checked requests and padded results

Which forms pass their check, and what the views of a result show when its slots are records
followed by padding.
-/

namespace TickWalk

namespace ScanResult

/-- The result of a scan that has found these records: they fill the first of its slots. -/
def padded (maxSteps : Nat) (records : List TickRecord) (version : Value) (d : Direction) :
    ScanResult :=
  ⟨Scanner.slots maxSteps records, records.length, version, d⟩

variable (maxSteps : Nat) (records : List TickRecord) (version : Value) (d : Direction)

lemma validTicks_padded : (padded maxSteps records version d).validTicks = records :=
  List.take_left

lemma exhausted_padded (h : records.length ≤ maxSteps) :
    (padded maxSteps records version d).exhausted = decide (records.length < maxSteps) := by
  have hlength : (Scanner.slots maxSteps records).length = maxSteps := by
    rw [Scanner.slots, List.length_append, List.length_replicate]
    omega
  rw [exhausted, padded, hlength]

lemma lastTick?_padded :
    (padded maxSteps records version d).lastTick? = records.getLast?.map (·.tick) := by
  unfold lastTick? padded
  by_cases hnil : records = []
  · simp [hnil]
  · have hlength : records.length ≠ 0 := by simpa using hnil
    have hlast : records.length - 1 < records.length := by omega
    rw [if_neg hlength, Scanner.slots, List.getElem?_append_left hlast, List.getLast?_eq_getElem?]

end ScanResult

namespace RequestForm

variable {form : RequestForm} {domain : KeyDomain} {request : ScanRequest}

lemma read_error_of_steps {snapshot start spacing : Value} {d : Direction} {m : Nat}
    {fault : RequestFault}
    (h : read ⟨snapshot, start, .ok d, .int m, spacing⟩ domain = .error fault) (n : Nat) :
    read ⟨snapshot, start, .ok d, .int n, spacing⟩ domain = .error fault := by
  simp only [read] at h ⊢
  cases spacing with
  | int w =>
    simp only at h ⊢
    by_cases hpos : w ≤ 0
    · rw [if_pos hpos] at h ⊢
      exact h
    · rw [if_neg hpos] at h ⊢
      cases start with
      | int c =>
        simp only at h ⊢
        by_cases hin : domain.contains c = true
        · rw [if_pos hin] at h
          cases h
        · rw [if_neg hin] at h ⊢
          exact h
      | _ => exact h
  | _ => exact h

lemma check_eq_ok_iff_read : form.check domain = .ok request ↔ form.read domain = .ok request := by
  unfold check
  cases form.read domain with
  | ok r => simp only [Except.ok.injEq]
  | error fault => exact iff_of_false (fun h => nomatch h) (fun h => nomatch h)

lemma check_of_read_error {fault : RequestFault} (h : form.read domain = .error fault) :
    form.check domain = .error (Failure.request fault).told := by
  rw [check, h]
  rfl

/-- A form passes its check exactly when it is that of a request with a positive spacing and a start
in the domain. -/
theorem check_eq_ok_iff : form.check domain = .ok request ↔
    form = request.form ∧ 0 < request.spacing ∧ domain.contains request.start = true := by
  rw [check_eq_ok_iff_read]
  constructor
  · intro h
    unfold read at h
    split at h
    · simp at h
    · rename_i direction hdirection
      split at h
      · rename_i maxSteps hmaxSteps
        split at h
        · rename_i spacing hspacing
          split_ifs at h with hpos
          split at h
          · rename_i start hstart
            split_ifs at h with hin
            obtain rfl := Except.ok.inj h
            refine ⟨?_, Int.not_le.mp hpos, hin⟩
            cases form
            simp only at hdirection hmaxSteps hspacing hstart
            subst hdirection hmaxSteps hspacing hstart
            rfl
          · simp at h
        · simp at h
      · simp at h
  · rintro ⟨rfl, hpos, hin⟩
    simp only [read, ScanRequest.form, if_neg (Int.not_le.mpr hpos), hin, if_true]

lemma exists_check_at (hcheck : form.check domain = .ok request) {cursor : Int}
    (hcursor : domain.contains cursor = true) (d : Direction) (steps : Nat) :
    ∃ r, RequestForm.check ⟨form.snapshot, .int cursor, .ok d, .int steps, form.spacing⟩ domain =
      .ok r := by
  obtain ⟨rfl, hpos, -⟩ := check_eq_ok_iff.mp hcheck
  exact ⟨⟨request.snapshot, cursor, d, steps, request.spacing⟩,
    check_eq_ok_iff.mpr ⟨rfl, hpos, hcursor⟩⟩

/-- What a scan settles before it reads anything: its request, and room for its slots. -/
def ready (form : RequestForm) (domain : KeyDomain) : Except Failure ScanRequest := do
  let request ← form.check domain
  let _ ← copies Scanner.slotLimit request.maxSteps
  .ok request

lemma ready_of_le (hcheck : form.check domain = .ok request)
    (h : request.maxSteps ≤ Scanner.slotLimit) : form.ready domain = .ok request := by
  rw [ready, hcheck, ok_bind, Scanner.copies_of_le h, ok_bind]

lemma ready_of_lt (hcheck : form.check domain = .ok request)
    (h : Scanner.slotLimit < request.maxSteps) :
    form.ready domain = .error (Scanner.noRoom request.maxSteps) := by
  rw [ready, hcheck, ok_bind, Scanner.copies_of_lt h]
  rfl

lemma ready_of_read_error {fault : RequestFault} (h : form.read domain = .error fault) :
    form.ready domain = .error (Failure.request fault).told := by
  rw [ready, check_of_read_error h]
  rfl

lemma ready_cases (form : RequestForm) (domain : KeyDomain) :
    (∃ fault, form.read domain = .error fault ∧
      form.ready domain = .error (Failure.request fault).told) ∨
    ∃ request, form.check domain = .ok request ∧
      ((Scanner.slotLimit < request.maxSteps ∧
          form.ready domain = .error (Scanner.noRoom request.maxSteps)) ∨
        (request.maxSteps ≤ Scanner.slotLimit ∧ form.ready domain = .ok request)) := by
  cases hread : form.read domain with
  | error fault => exact .inl ⟨fault, rfl, ready_of_read_error hread⟩
  | ok request =>
    have hcheck := check_eq_ok_iff_read.mpr hread
    refine .inr ⟨request, hcheck, ?_⟩
    rcases Nat.lt_or_ge Scanner.slotLimit request.maxSteps with hlarge | hroom
    · exact .inl ⟨hlarge, ready_of_lt hcheck hlarge⟩
    · exact .inr ⟨hroom, ready_of_le hcheck hroom⟩

lemma check_of_ready (h : form.ready domain = .ok request) :
    form.check domain = .ok request ∧ request.maxSteps ≤ Scanner.slotLimit := by
  rcases ready_cases form domain with ⟨fault, -, herror⟩ | ⟨r, hcheck, ⟨-, herror⟩ | ⟨hroom, hready⟩⟩
  · cases h.symm.trans herror
  · cases h.symm.trans herror
  · obtain rfl := Except.ok.inj (h.symm.trans hready)
    exact ⟨hcheck, hroom⟩

end RequestForm

namespace Scanner

variable {σ : Type} {p : Provider σ} {domain : KeyDomain} {form : RequestForm} {request : ScanRequest}

lemma scan_eq (p : Provider σ) (domain : KeyDomain) (form : RequestForm) :
    scan ⟨p, domain⟩ form = (do
      let request ← Action.lift (form.ready domain)
      follow ⟨p, domain⟩ request) := by
  unfold scan perform RequestForm.ready
  cases form.check domain with
  | error e => rfl
  | ok request =>
    rw [Action.lift_ok_bind, ok_bind]
    cases copies slotLimit request.maxSteps with
    | error e => rfl
    | ok n => rfl

lemma scan_of_ready (h : form.ready domain = .ok request) :
    scan ⟨p, domain⟩ form = follow ⟨p, domain⟩ request := by
  rw [scan_eq, h, Action.lift_ok_bind]

lemma scan_of_ready_error {e : Failure} (h : form.ready domain = .error e) :
    scan ⟨p, domain⟩ form = Action.lift (.error e) := by
  rw [scan_eq, h, Action.lift_error_bind]

/-- A scan of more steps than there can be slots fails before it reads anything. -/
theorem scan_of_lt (hcheck : form.check domain = .ok request) (h : slotLimit < request.maxSteps)
    (s : σ) : (scan ⟨p, domain⟩ form).run s = ⟨.error (noRoom request.maxSteps), s, []⟩ := by
  rw [scan_of_ready_error (RequestForm.ready_of_lt hcheck h), Action.run_lift]

lemma exists_ready_of_scan_ok {s : σ} {result : ScanResult}
    (h : ((scan ⟨p, domain⟩ form).run s).result = .ok result) :
    ∃ request, form.ready domain = .ok request := by
  cases hready : form.ready domain with
  | ok request => exact ⟨request, rfl⟩
  | error e =>
    rw [scan_of_ready_error hready] at h
    cases h

lemma maxSteps_le_of_scan_ok {s : σ} {result : ScanResult}
    (hcheck : form.check domain = .ok request)
    (h : ((scan ⟨p, domain⟩ form).run s).result = .ok result) : request.maxSteps ≤ slotLimit := by
  obtain ⟨r, hready⟩ := exists_ready_of_scan_ok h
  obtain ⟨hcheck', hroom⟩ := RequestForm.check_of_ready hready
  obtain rfl := Except.ok.inj (hcheck.symm.trans hcheck')
  exact hroom

end Scanner

end TickWalk
