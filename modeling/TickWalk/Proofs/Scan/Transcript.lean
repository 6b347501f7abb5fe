import TickWalk.Script
import TickWalk.Proofs.Scan.Walk
import TickWalk.Proofs.Trace

/-!
# What a scan asks

A provider may answer anything, in any order, and fail at any question. `Scanner.Transcript` says
which questions a walk puts to it, one after the other, and what it is told: a candidate is searched
for, fetched when it is strictly inside the domain, and followed by the next search; the first other
candidate ends the walk, as does a failure or the last step. Every walk goes by a transcript, and a
scan reports what its transcript says.
-/

namespace TickWalk

/-- What a provider tells about one candidate: whether it is initialized, and what is stored there. -/
structure Hit where
  flag : Value
  tick : Int
  gross : Int
  net : Int

def Hit.record (h : Hit) : TickRecord := ⟨h.flag.truthy, h.tick, h.gross, h.net⟩

/-- How a walk ends: with its last step, at a candidate that is not strictly inside the domain, or
with a failure of the provider. -/
inductive Ending
  | filled
  | outside
  | failed (e : Failure)

/-- What comes of a walk that ends so, when otherwise it answers `a`. -/
def Ending.result {α : Type} (ending : Ending) (a : α) : Except Failure α :=
  match ending with
  | failed e => .error e
  | _ => .ok a

lemma Ending.failed_or_result (ending : Ending) :
    (∃ e, ending = .failed e) ∨
      ((∀ e, ending ≠ .failed e) ∧ ∀ {α : Type} (a : α), ending.result a = .ok a) := by
  cases ending with
  | failed e => exact .inl ⟨e, rfl⟩
  | filled => exact .inr ⟨fun _ h => Ending.noConfusion h, fun _ => rfl⟩
  | outside => exact .inr ⟨fun _ h => Ending.noConfusion h, fun _ => rfl⟩

variable {σ : Type}

/-- From a sound state the action asks nobody else, leaves a sound state, and answers only what has
the property `P`. -/
structure Action.Answers (x : Action σ Value) (s : σ) (sound : σ → Prop) (P : Value → Prop) : Prop where
  silent : reads (x.run s).events = []
  sound : sound (x.run s).state
  answer : ∀ v, (x.run s).result = .ok v → P v

/-- A provider that, as long as its state is sound, answers searches with integer ticks and fetches
with integer amounts. It may fail at any question, and what it answers may depend on all that it has
been asked. -/
structure Provider.Integral (p : Provider σ) (snapshot : Value) (sound : σ → Prop) : Prop where
  find : ∀ s cursor d spacing, sound s →
    (p.answerFind snapshot (.int cursor) d (.int spacing)).Answers s sound fun v =>
      ∃ (flag : Value) (tick : Int), v.pair = .ok (flag, .int tick)
  fetch : ∀ s tick, sound s →
    (p.answerFetch snapshot (.int tick)).Answers s sound fun v =>
      ∃ gross net : Int, v.pair = .ok (.int gross, .int net)
  version : ∀ s, sound s → (p.answerVersion snapshot).Answers s sound fun _ => True

namespace Scanner

/-- In the state `a` the provider tells a candidate for a cursor, which leaves the state `b`. -/
def Finds (s : Scanner σ) (request : ScanRequest) (a : σ) (cursor : Int) (flag : Value) (tick : Int)
    (b : σ) : Prop :=
  ∃ v, (s.provider.find request.snapshot (.int cursor) request.direction
    (.int request.spacing)).Gives a v b ∧ v.pair = .ok (flag, .int tick)

/-- In the state `a` the provider tells the amounts at a tick, which leaves the state `b`. -/
def Fetches (s : Scanner σ) (request : ScanRequest) (a : σ) (tick gross net : Int) (b : σ) : Prop :=
  ∃ v, (s.provider.fetch request.snapshot (.int tick)).Gives a v b ∧
    v.pair = .ok (.int gross, .int net)

/-- A walk of at most so many steps from a cursor: the hits it is told, how it ends, what it asks, and
the states of the provider before and after it. -/
inductive Transcript (s : Scanner σ) (request : ScanRequest) :
    (steps : Nat) → σ → (cursor : Int) → List Hit → Ending → List Read → σ → Prop
  | filled (a : σ) (cursor : Int) : Transcript s request 0 a cursor [] .filled [] a
  | outside {steps : Nat} {a b : σ} {cursor tick : Int} {flag : Value}
      (hfind : s.Finds request a cursor flag tick b) (hout : s.domain.strictlyInside tick = false) :
      Transcript s request (steps + 1) a cursor [] .outside [.find (.int cursor)] b
  | findFailed {steps : Nat} {a b : σ} {cursor : Int} {e : Failure}
      (hfind : (s.provider.find request.snapshot (.int cursor) request.direction
        (.int request.spacing)).Raises a e b) :
      Transcript s request (steps + 1) a cursor [] (.failed e) [.find (.int cursor)] b
  | fetchFailed {steps : Nat} {a b c : σ} {cursor tick : Int} {flag : Value} {e : Failure}
      (hfind : s.Finds request a cursor flag tick b) (hin : s.domain.strictlyInside tick = true)
      (hfetch : (s.provider.fetch request.snapshot (.int tick)).Raises b e c) :
      Transcript s request (steps + 1) a cursor [] (.failed e)
        [.find (.int cursor), .fetch (.int tick)] c
  | hit {steps : Nat} {a b c d : σ} {cursor tick gross net : Int} {flag : Value} {hits : List Hit}
      {ending : Ending} {asked : List Read}
      (hfind : s.Finds request a cursor flag tick b) (hin : s.domain.strictlyInside tick = true)
      (hfetch : s.Fetches request b tick gross net c)
      (hrest : Transcript s request steps c (request.direction.nextCursor tick) hits ending asked d) :
      Transcript s request (steps + 1) a cursor (⟨flag, tick, gross, net⟩ :: hits) ending
        (.find (.int cursor) :: .fetch (.int tick) :: asked) d

variable {s : Scanner σ} {request : ScanRequest} {steps : Nat} {a b : σ} {cursor : Int}
  {hits : List Hit} {ending : Ending} {asked : List Read}

lemma Transcript.length_le (h : s.Transcript request steps a cursor hits ending asked b) :
    hits.length ≤ steps := by
  induction h with
  | hit _ _ _ _ ih => exact Nat.succ_le_succ ih
  | _ => exact Nat.zero_le _

lemma Transcript.inside (h : s.Transcript request steps a cursor hits ending asked b) :
    ∀ hit ∈ hits, s.domain.strictlyInside hit.tick = true := by
  induction h with
  | hit _ hin _ _ ih => exact List.forall_mem_cons.mpr ⟨hin, ih⟩
  | _ => simp

lemma Transcript.length_lt_iff (h : s.Transcript request steps a cursor hits ending asked b)
    (hdone : ∀ e, ending ≠ .failed e) : hits.length < steps ↔ ending = .outside := by
  induction h with
  | filled => simp
  | outside => simp
  | findFailed => exact absurd rfl (hdone _)
  | fetchFailed => exact absurd rfl (hdone _)
  | hit _ _ _ _ ih =>
    rw [List.length_cons, Nat.succ_lt_succ_iff]
    exact ih hdone

end Scanner

section Walks

variable {p : Provider σ} {snapshot : Value} {sound : σ → Prop} {a : σ} {request : ScanRequest}

lemma Provider.Integral.runs_find (h : p.Integral snapshot sound) (ha : sound a)
    (cursor : Int) (d : Direction) (spacing : Int) :
    ∃ r b, sound b ∧ (p.find snapshot (.int cursor) d (.int spacing)).Runs a
      [.find (.int cursor)] r b ∧
      ∀ v, r = .ok v → ∃ (flag : Value) (tick : Int), v.pair = .ok (flag, .int tick) := by
  have hanswer := h.find a cursor d spacing ha
  refine ⟨_, _, hanswer.sound, ?_, hanswer.answer⟩
  exact (Action.runs_note _ a).bind ⟨rfl, hanswer.silent, rfl⟩

lemma Provider.Integral.runs_fetch (h : p.Integral snapshot sound) (ha : sound a) (tick : Int) :
    ∃ r b, sound b ∧ (p.fetch snapshot (.int tick)).Runs a [.fetch (.int tick)] r b ∧
      ∀ v, r = .ok v → ∃ gross net : Int, v.pair = .ok (.int gross, .int net) := by
  have hanswer := h.fetch a tick ha
  refine ⟨_, _, hanswer.sound, ?_, hanswer.answer⟩
  exact (Action.runs_note _ a).bind ⟨rfl, hanswer.silent, rfl⟩

lemma Provider.Integral.runs_version (h : p.Integral snapshot sound) (ha : sound a) :
    ∃ r b, sound b ∧ (p.version snapshot).Runs a [.version] r b := by
  have hanswer := h.version a ha
  exact ⟨_, _, hanswer.sound, (Action.runs_note _ a).bind ⟨rfl, hanswer.silent, rfl⟩⟩

namespace Scanner

/-- One visit asks for a candidate, fetches it if it is strictly inside the domain, and goes by the
transcript of that step. -/
lemma visit_transcript (domain : KeyDomain) (h : p.Integral request.snapshot sound) (ha : sound a)
    (found : Nat) (cursor : Int) :
    ∃ asked b, sound b ∧
      ((∃ hit : Hit,
          (visit ⟨p, domain⟩ request found (.int cursor)).Runs a asked
            (.ok (some (hit.record, .int (request.direction.nextCursor hit.tick)))) b ∧
          ∀ steps hits ending more c,
            Transcript ⟨p, domain⟩ request steps b (request.direction.nextCursor hit.tick) hits ending
              more c →
            Transcript ⟨p, domain⟩ request (steps + 1) a cursor (hit :: hits) ending (asked ++ more)
              c) ∨
        ((visit ⟨p, domain⟩ request found (.int cursor)).Runs a asked (.ok none) b ∧
          ∀ steps, Transcript ⟨p, domain⟩ request (steps + 1) a cursor [] .outside asked b) ∨
        ∃ e, (visit ⟨p, domain⟩ request found (.int cursor)).Runs a asked (.error e) b ∧
          ∀ steps, Transcript ⟨p, domain⟩ request (steps + 1) a cursor [] (.failed e) asked b) := by
  unfold visit
  obtain ⟨r, b, hb, hfind, hcandidate⟩ := h.runs_find ha cursor request.direction request.spacing
  cases r with
  | error e =>
    refine ⟨_, b, hb, .inr (.inr ⟨e, hfind.bind_error _, fun steps => ?_⟩)⟩
    exact .findFailed ⟨hfind.result, hfind.state⟩
  | ok v =>
    obtain ⟨flag, tick, hv⟩ := hcandidate v rfl
    have hfinds : Finds ⟨p, domain⟩ request a cursor flag tick b :=
      ⟨v, ⟨hfind.result, hfind.state⟩, hv⟩
    cases hin : domain.strictlyInside tick with
    | false =>
      refine ⟨_, b, hb, .inr (.inl ⟨hfind.bind_silent ?_, fun steps => .outside hfinds hin⟩)⟩
      simp only [hv, Action.lift_ok_bind, KeyDomain.admits_int, hin]
      exact (Action.runs_log _ _ _ b).bind_silent (Action.runs_pure none b)
    | true =>
      -- Only a candidate inside the domain is fetched, in the state that the search has left.
      obtain ⟨r, c, hc, hfetch, hamounts⟩ := h.runs_fetch hb tick
      cases r with
      | error e =>
        refine ⟨_, c, hc, .inr (.inr ⟨e, hfind.bind ?_,
          fun steps => .fetchFailed hfinds hin ⟨hfetch.result, hfetch.state⟩⟩)⟩
        simp only [hv, Action.lift_ok_bind, KeyDomain.admits_int, hin, if_true]
        exact hfetch.bind_error _
      | ok w =>
        obtain ⟨gross, net, hw⟩ := hamounts w rfl
        have hfetches : Fetches ⟨p, domain⟩ request b tick gross net c :=
          ⟨w, ⟨hfetch.result, hfetch.state⟩, hw⟩
        refine ⟨[.find (.int cursor)] ++ [.fetch (.int tick)], c, hc,
          .inl ⟨⟨flag, tick, gross, net⟩, hfind.bind ?_, ?_⟩⟩
        · simp only [hv, Action.lift_ok_bind, KeyDomain.admits_int, hin, if_true]
          apply hfetch.bind_silent
          simp only [hw, Action.lift_ok_bind, TickRecord.ofValues_int, Direction.advance_int]
          by_cases hfree : (!flag.truthy) = true
          · rw [if_pos hfree]
            exact (Action.runs_log _ _ _ c).bind_silent (Action.runs_pure _ c)
          · rw [if_neg hfree]
            exact Action.runs_pure _ c
        · intro steps hits ending more d hrest
          exact .hit hfinds hin hfetches hrest

/-- Every walk goes by a transcript: it asks what the transcript says and records its hits, unless the
provider fails. -/
theorem walk_transcript (domain : KeyDomain) (h : p.Integral request.snapshot sound) (ha : sound a)
    (left found : Nat) (cursor : Int) :
    ∃ hits ending asked b, sound b ∧
      Transcript ⟨p, domain⟩ request left a cursor hits ending asked b ∧
      (walk ⟨p, domain⟩ request left found (.int cursor)).Runs a asked
        (ending.result (hits.map Hit.record)) b := by
  induction left generalizing found a cursor with
  | zero => exact ⟨[], .filled, [], a, ha, .filled a cursor, Action.runs_pure [] a⟩
  | succ left ih =>
    -- A hit is put before the transcript of the steps left; whatever else the visit meets ends the walk.
    obtain ⟨asked, b, hb, ⟨hit, hvisit, hrest⟩ | ⟨hvisit, hend⟩ | ⟨e, hvisit, hend⟩⟩ :=
      visit_transcript domain h ha found cursor
    · obtain ⟨hits, ending, more, c, hc, htranscript, hwalk⟩ := ih hb (found + 1)
        (request.direction.nextCursor hit.tick)
      refine ⟨hit :: hits, ending, asked ++ more, c, hc, hrest _ _ _ _ _ htranscript, ?_⟩
      rw [walk_succ]
      apply hvisit.bind
      cases ending with
      | failed e => exact hwalk.bind_error _
      | filled => exact hwalk.bind_silent (Action.runs_pure _ c)
      | outside => exact hwalk.bind_silent (Action.runs_pure _ c)
    · refine ⟨[], .outside, asked, b, hb, hend left, ?_⟩
      rw [walk_succ]
      exact hvisit.bind_silent (Action.runs_pure [] b)
    · refine ⟨[], .failed e, asked, b, hb, hend left, ?_⟩
      rw [walk_succ]
      exact hvisit.bind_error _

end Scanner

end Walks

/-- What a result says after some hits: they fill the first of its slots, one each and in their order,
and the other slots are empty. -/
structure ScanResult.Reports (r : ScanResult) (request : ScanRequest) (domain : KeyDomain)
    (hits : List Hit) (version : Value) : Prop where
  size : r.ticks.length = request.maxSteps
  count : r.validTo = hits.length
  count_le : r.validTo ≤ request.maxSteps
  filled : ∀ i, ∀ h : i < hits.length, r.ticks[i]? = some hits[i].record
  free : ∀ i, hits.length ≤ i → i < request.maxSteps → r.ticks[i]? = some TickRecord.empty
  inside : ∀ record ∈ r.validTicks, domain.strictlyInside record.tick = true
  version : r.version = version
  direction : r.direction = request.direction

lemma ScanResult.reports_padded {request : ScanRequest} {domain : KeyDomain} {hits : List Hit}
    (hlength : hits.length ≤ request.maxSteps)
    (hinside : ∀ hit ∈ hits, domain.strictlyInside hit.tick = true) (version : Value) :
    (padded request.maxSteps (hits.map Hit.record) version request.direction).Reports request domain
      hits version := by
  refine ⟨?_, List.length_map _, ?_, ?_, ?_, ?_, rfl, rfl⟩
  · rw [padded, Scanner.slots, List.length_append, List.length_replicate, List.length_map]
    omega
  · rw [padded, List.length_map]
    exact hlength
  · intro i hi
    rw [padded, Scanner.slots, List.getElem?_append_left (by rwa [List.length_map]),
      List.getElem?_map, List.getElem?_eq_getElem hi]
    rfl
  · intro i hlow hhigh
    rw [padded, Scanner.slots, List.getElem?_append_right (by rwa [List.length_map]),
      List.length_map, List.getElem?_replicate, if_pos (by omega)]
  · rw [validTicks_padded]
    intro record hrecord
    obtain ⟨hit, hhit, rfl⟩ := List.mem_map.mp hrecord
    exact hinside hit hhit

/-- Before anything is asked, a request that cannot be read is refused, as a request exactly when the
values that the message shows can be written, and one for more slots than there can be fails. Any other
scan goes by a transcript. A failure of the provider ends the scan as it is. Otherwise the version is read,
once and last, and the result reports the hits; it is exhausted exactly when the walk has ended at a
candidate that is not strictly inside the domain. -/
theorem scan_goes_by_transcript {p : Provider σ} {sound : σ → Prop} {a : σ} {form : RequestForm}
    (h : p.Integral form.snapshot sound) (ha : sound a) (domain : KeyDomain) :
    (∀ fault, form.read domain = .error fault → ∃ e,
      (Scanner.scan ⟨p, domain⟩ form).run a = ⟨.error e, a, []⟩ ∧
        (e = .request fault ↔ ∀ v ∈ fault.shows, v.isShort = true) ∧
        (e = .request fault ∨ e = .tooManyDigits none)) ∧
    (∀ request, form.read domain = .ok request → Scanner.slotLimit < request.maxSteps →
      (Scanner.scan ⟨p, domain⟩ form).run a = ⟨.error (Scanner.noRoom request.maxSteps), a, []⟩) ∧
    ∀ request, form.read domain = .ok request → request.maxSteps ≤ Scanner.slotLimit →
      ∃ hits ending asked b,
        Scanner.Transcript ⟨p, domain⟩ request request.maxSteps a request.start hits ending asked b ∧
        ((∃ e, ending = .failed e ∧ (Scanner.scan ⟨p, domain⟩ form).Runs a asked (.error e) b) ∨
          ((∀ e, ending ≠ .failed e) ∧
            ((∃ version c result, (p.version form.snapshot).Gives b version c ∧
                (Scanner.scan ⟨p, domain⟩ form).Runs a (asked ++ [.version]) (.ok result) c ∧
                result.Reports request domain hits version ∧
                (result.exhausted = true ↔ ending = .outside)) ∨
              ∃ e c, (p.version form.snapshot).Raises b e c ∧
                (Scanner.scan ⟨p, domain⟩ form).Runs a (asked ++ [.version]) (.error e) c))) := by
  refine ⟨?_, ?_, ?_⟩
  · intro fault hread
    refine ⟨(Failure.request fault).told, ?_, Failure.told_request_iff fault, Failure.told_eq_or _⟩
    rw [Scanner.scan_of_ready_error (RequestForm.ready_of_read_error hread), Action.run_lift]
  · intro request hread hlarge
    exact Scanner.scan_of_lt (RequestForm.check_eq_ok_iff_read.mpr hread) hlarge a
  · intro request hread hroom
    have hcheck := RequestForm.check_eq_ok_iff_read.mpr hread
    have hready := RequestForm.ready_of_le hcheck hroom
    obtain ⟨rfl, -, -⟩ := RequestForm.check_eq_ok_iff.mp hcheck
    obtain ⟨hits, ending, asked, b, hb, htranscript, hwalk⟩ :=
      Scanner.walk_transcript domain h ha request.maxSteps 0 request.start
    refine ⟨hits, ending, asked, b, htranscript, ?_⟩
    rw [Scanner.scan_of_ready hready]
    rcases ending.failed_or_result with ⟨e, rfl⟩ | ⟨hdone, hresult⟩
    · exact .inl ⟨e, rfl, hwalk.bind_error _⟩
    · -- The walk has answered. What comes of the scan is now up to the version read.
      rw [hresult] at hwalk
      obtain ⟨r, c, -, hversion⟩ := h.runs_version hb
      refine .inr ⟨hdone, ?_⟩
      cases r with
      | error e =>
        exact .inr ⟨e, c, ⟨hversion.result, hversion.state⟩, hwalk.bind (hversion.bind_error _)⟩
      | ok version =>
        refine .inl ⟨version, c, ScanResult.padded request.maxSteps (hits.map Hit.record) version
          request.direction, ⟨hversion.result, hversion.state⟩, ?_, ?_, ?_⟩
        · exact hwalk.bind (hversion.bind_silent
            ((Action.runs_log _ _ _ c).bind_silent (Action.runs_pure _ c)))
        · exact ScanResult.reports_padded htranscript.length_le htranscript.inside version
        · have hlength : (hits.map Hit.record).length ≤ request.maxSteps := by
            rw [List.length_map]
            exact htranscript.length_le
          rw [ScanResult.exhausted_padded _ _ _ _ hlength, decide_eq_true_eq, List.length_map]
          exact htranscript.length_lt_iff hdone

namespace Script

/-- A script whose answers to searches are integer ticks, and whose answers to fetches are integer
amounts. -/
structure Integral (s : Script) : Prop where
  find : ∀ v, .answer v ∈ s.find → ∃ (flag : Value) (tick : Int), v.pair = .ok (flag, .int tick)
  fetch : ∀ v, .answer v ∈ s.fetch → ∃ gross net : Int, v.pair = .ok (.int gross, .int net)

variable {name : String} {cues : List Cue} {v : Value}

lemma mem_of_next_ok (h : (next name cues).1 = .ok v) : .answer v ∈ cues := by
  cases cues with
  | nil => cases h
  | cons cue rest =>
    cases cue with
    | answer w =>
      cases h
      exact List.mem_cons_self
    | raise kind message => cases h

lemma mem_of_mem_next {cue : Cue} (h : cue ∈ (next name cues).2) : cue ∈ cues := by
  cases cues with
  | nil => exact h
  | cons first rest =>
    cases first with
    | answer w => exact List.mem_cons_of_mem _ h
    | raise kind message => exact List.mem_cons_of_mem _ h

lemma integral_provider (snapshot : Value) : provider.Integral snapshot Script.Integral := by
  refine ⟨fun s cursor d spacing hs => ?_, fun s tick hs => ?_, fun s hs => ?_⟩
  · refine ⟨rfl, ⟨fun v hv => hs.find v (mem_of_mem_next hv), hs.fetch⟩, fun v hv => ?_⟩
    exact hs.find v (mem_of_next_ok hv)
  · refine ⟨rfl, ⟨hs.find, fun v hv => hs.fetch v (mem_of_mem_next hv)⟩, fun v hv => ?_⟩
    exact hs.fetch v (mem_of_next_ok hv)
  · exact ⟨rfl, ⟨hs.find, hs.fetch⟩, fun _ _ => trivial⟩

end Script

/-- A script that goes back up in a downward scan and comes to one tick twice, before it leaves the
domain. -/
theorem scan_goes_by_transcript_of_script :
    let script : Script := ⟨[.answer (.list [.bool true, .int 5]), .answer (.list [.int 0, .int 20]),
      .answer (.list [.null, .int 5]), .answer (.list [.bool true, .int 500])],
      [.answer (.list [.int 7, .int (-7)]), .answer (.list [.int 0, .int 0]),
        .answer (.list [.int 9, .int 1])], [.answer (.text "v")]⟩
    let request : ScanRequest := ⟨.null, 10, .inclusive, 5, 1⟩
    script.Integral ∧
      (∃ hits ending asked b, Scanner.Transcript ⟨Script.provider, ⟨-100, 100⟩⟩ request 5 script 10 hits
        ending asked b) ∧
      (Scanner.scan ⟨Script.provider, ⟨-100, 100⟩⟩ request.form).Runs script
        [.find (.int 10), .fetch (.int 5), .find (.int 4), .fetch (.int 20), .find (.int 19),
          .fetch (.int 5), .find (.int 4), .version]
        (.ok ⟨[⟨true, 5, 7, -7⟩, ⟨false, 20, 0, 0⟩, ⟨false, 5, 9, 1⟩, .empty, .empty], 3, .text "v",
          .inclusive⟩) ⟨[], [], []⟩ := by
  intro script request
  have hscript : script.Integral := by
    constructor <;> simp [script]
  obtain ⟨hits, ending, asked, b, htranscript, -⟩ :=
    (scan_goes_by_transcript (Script.integral_provider request.form.snapshot) hscript
      ⟨-100, 100⟩).2.2 request rfl (by decide)
  exact ⟨hscript, ⟨hits, ending, asked, b, htranscript⟩, ⟨rfl, rfl, rfl⟩⟩

/-- The first search would fail, but the slots of the request are too many to be laid out, and so no search
is made. -/
theorem scan_asks_nothing_without_slots :
    let script : Script := ⟨[.raise "RuntimeError" "boom"], [], []⟩
    let request : ScanRequest := ⟨.null, 0, .exclusive, 9223372036854775808, 1⟩
    let scan := Scanner.scan ⟨Script.provider, ⟨-100, 100⟩⟩ request.form
    script.Integral ∧ request.form.check ⟨-100, 100⟩ = .ok request ∧
      (Script.provider.find .null (.int 0) .exclusive (.int 1)).Raises script
        (.raised "RuntimeError" "boom") ⟨[], [], []⟩ ∧
      scan.run script = ⟨.error .notIndex, script, []⟩ ∧
      ∀ asked b, ¬ scan.Runs script asked (.error (.raised "RuntimeError" "boom")) b := by
  intro script request scan
  have hscript : script.Integral := by
    constructor <;> simp [script]
  have hcheck : request.form.check ⟨-100, 100⟩ = .ok request := rfl
  have hlarge : Scanner.slotLimit < request.maxSteps := by decide
  have hrun : scan.run script = ⟨.error .notIndex, script, []⟩ := Scanner.scan_of_lt hcheck hlarge script
  refine ⟨hscript, hcheck, ⟨rfl, rfl⟩, hrun, ?_⟩
  intro asked b hruns
  have hsame : Failure.notIndex = .raised "RuntimeError" "boom" :=
    Except.error.inj ((congrArg Outcome.result hrun).symm.trans hruns.result)
  simp [Failure.notIndex] at hsame

end TickWalk
