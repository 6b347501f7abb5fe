import TickWalk.Proofs.Scan.Store

/-!
# Scans through a bitmap

In its default mode a store searches one word at a time. A scan of a committed snapshot then records
the landmarks ahead of its start, committed ticks and word edges, in order and without a gap.
-/

namespace TickWalk

/-- The landmarks that a scan from `start` can record: the multiples of the spacing that are committed
or at the edge of a word, in the order of the scan, up to the first one that is not strictly inside
the domain. -/
def Snapshot.landmarks (snap : Snapshot) (domain : KeyDomain) (d : Direction)
    (spacing start : Int) : List Int :=
  domain.course d (Bitmap.isLandmark d spacing snap.occupied) start

namespace Store

variable {s : Store} {snap : Snapshot} {domain : KeyDomain} {request : ScanRequest}

lemma seeks_landmarks (hs : s.Reachable) (hmode : s.withinOneWord = true)
    (hsnap : s.snapshot request.snapshot = .ok snap) (hpos : 0 < request.spacing)
    (hspacing : (Value.int request.spacing).same snap.spacing = true) (domain : KeyDomain) :
    s.Seeks snap domain request
      (Bitmap.isLandmark request.direction request.spacing snap.occupied) := by
  intro cursor
  obtain ⟨t, hfind, hnearest⟩ :=
    find_of_withinOneWord hs hmode hsnap hspacing hpos request.direction cursor
  exact ⟨_, t, hfind, .inl ⟨rfl, hnearest⟩⟩

/-- A bitmap scan of a committed snapshot returns exactly when its slots can be laid out, and otherwise
fails before it reads anything. It records the landmarks ahead of its start, as many as its steps allow,
each with what the snapshot holds there, and pads the other slots. -/
theorem scan_records_landmarks (hs : s.Reachable) (hmode : s.withinOneWord = true)
    {form : RequestForm} (hcheck : form.check domain = .ok request)
    (hsnap : s.snapshot request.snapshot = .ok snap)
    (hspacing : (Value.int request.spacing).same snap.spacing = true) :
    (request.maxSteps ≤ Scanner.slotLimit ↔
      ∃ result, (Scanner.scan ⟨provider, domain⟩ form).Yields s result ∧
        result.validTicks =
          ((snap.landmarks domain request.direction request.spacing request.start).take
            request.maxSteps).map snap.recordAt ∧
        result.validTo = result.validTicks.length ∧
        result.ticks =
          result.validTicks ++ List.replicate (request.maxSteps - result.validTo) TickRecord.empty ∧
        result.version = snap.version ∧ result.direction = request.direction) ∧
      (Scanner.slotLimit < request.maxSteps →
        (Scanner.scan ⟨provider, domain⟩ form).run s =
          ⟨.error (Scanner.noRoom request.maxSteps), s, []⟩) := by
  have hpos := (RequestForm.check_eq_ok_iff.mp hcheck).2.1
  refine ⟨⟨fun hroom => ?_, ?_⟩, fun hlarge => Scanner.scan_of_lt hcheck hlarge s⟩
  · refine ⟨_, yields_scan_course hcheck hroom hsnap
      (seeks_landmarks hs hmode hsnap hpos hspacing domain), ?_⟩
    rw [ScanResult.validTicks_padded]
    exact ⟨rfl, rfl, rfl, rfl, rfl⟩
  · rintro ⟨result, hyields, -⟩
    exact Scanner.maxSteps_le_of_scan_ok hcheck hyields.result

/-- Below zero, from a start that is no multiple of the spacing: a word edge lies between two ticks. -/
theorem scan_records_landmarks_below_zero :
    let c : Commit := ⟨[⟨.int (-2550), .int 4, .int (-4)⟩, ⟨.int (-2570), .int 9, .int 2⟩],
      .int 7, .int 10, .null⟩
    let s := ((commit c).run (.empty ⟨-3000, 3000⟩ true)).state
    let form : RequestForm := ⟨.int 7, .int (-2545), .ok .inclusive, .int 5, .int 10⟩
    s.Reachable ∧ ∃ result, (Scanner.scan ⟨provider, ⟨-2600, 100⟩⟩ form).Yields s result ∧
      result.ticks = [⟨true, -2550, 4, -4⟩, ⟨false, -2560, 0, 0⟩, ⟨true, -2570, 9, 2⟩,
        TickRecord.empty, TickRecord.empty] ∧
      result.validTo = 3 ∧ result.version = .int 7 := by
  intro c s form
  have hs : s.Reachable := .commit (.empty ⟨-3000, 3000⟩ true) c
  let snap : Snapshot := ⟨.int 7, .int 10, [(-1, 2 ^ 1), (-2, 2 ^ 255)],
    [(-2550, ⟨4, -4⟩), (-2570, ⟨9, 2⟩)], [-2550, -2570].mergeSort⟩
  have hcheck : form.check ⟨-2600, 100⟩ = .ok ⟨.int 7, -2545, .inclusive, 5, 10⟩ := rfl
  have hsnap : s.snapshot (.int 7) = .ok snap := rfl
  obtain ⟨result, hyields, hvalid, hto, hticks, hversion, -⟩ :=
    (scan_records_landmarks hs rfl hcheck hsnap rfl).1.mp (by decide)
  have hrecords : result.validTicks =
      [⟨true, -2550, 4, -4⟩, ⟨false, -2560, 0, 0⟩, ⟨true, -2570, 9, 2⟩] := by
    rw [hvalid]
    rfl
  rw [hrecords] at hto hticks
  rw [hto] at hticks
  exact ⟨hs, result, hyields, hticks, hto, hversion⟩

/-- A request for more slots than an index can count passes its check, and its scan fails. -/
theorem bitmap_scan_fails_without_slots :
    let c : Commit := ⟨[⟨.int 3, .int 5, .int 5⟩], .int 1, .int 1, .null⟩
    let s := ((commit c).run (.empty ⟨-10, 10⟩ true)).state
    let request : ScanRequest := ⟨.int 1, 0, .exclusive, 9223372036854775808, 1⟩
    s.Reachable ∧ request.form.check ⟨-10, 10⟩ = .ok request ∧
      (Scanner.scan ⟨provider, ⟨-10, 10⟩⟩ request.form).run s = ⟨.error .notIndex, s, []⟩ ∧
      ∀ result, ¬ (Scanner.scan ⟨provider, ⟨-10, 10⟩⟩ request.form).Yields s result := by
  intro c s request
  have hcheck : request.form.check ⟨-10, 10⟩ = .ok request := rfl
  have hlarge : Scanner.slotLimit < request.maxSteps := by decide
  refine ⟨.commit (.empty ⟨-10, 10⟩ true) c, hcheck, Scanner.scan_of_lt hcheck hlarge s, ?_⟩
  intro result hyields
  exact Nat.not_le.mpr hlarge (Scanner.maxSteps_le_of_scan_ok hcheck hyields.result)

end Store

end TickWalk
