import TickWalk.Load.Batches
import TickWalk.Script
import TickWalk.Proofs.Scan.Noting

/-!
# Loads that see one version

The version of a provider may change between any two of its answers. Every batch of a load tells a
version, which is compared with the one expected beforehand or else with the first one told. The
first version that differs ends the load at once; a load that returns has been told no other version
than the one that it answers. On the upper side of a band the version of the lower side is expected.
-/

namespace TickWalk

variable {σ α β : Type}

/-- What versions are compared with once `told` have been told: the version expected beforehand, or
else the first one. -/
def reference (expected : Option Value) (told : List Value) : Option Value :=
  expected.or told.head?

lemma reference_append (expected : Option Value) (told more : List Value) :
    reference expected (told ++ more) = reference (reference expected told) more := by
  rw [reference, reference, reference, List.head?_append, Option.or_assoc]

/-- A version that differs from those before it ends the run with an error, which tells both if they can
be told, and nothing is asked after it. -/
def Outcome.StopsAtChange (o : Outcome σ α) (p : Provider σ) (snapshot : Value)
    (expected : Option Value) (told : List Value) : Prop :=
  ∀ before v after first, told = before ++ v :: after → reference expected before = some first →
    v.same first = false →
    after = [] ∧ o.result = .error (Failure.versionChanged first v).told ∧
      o.EndsWithVersion p snapshot v

section Outcomes

variable {p : Provider σ} {snapshot v version : Value} {expected : Option Value}
  {told more : List Value} {o : Outcome σ α} {x : Action σ α} {f : α → Action σ β} {s t : σ} {a : α}
  {before : List Event}

lemma Outcome.stopsAtChange_nil (o : Outcome σ α) (p : Provider σ) (snapshot : Value)
    (expected : Option Value) : o.StopsAtChange p snapshot expected [] := by
  intro before v after first htold
  simp at htold

lemma Outcome.stopsAtChange_singleton (h : ∀ first, expected = some first → v.same first = false →
      o.result = .error (Failure.versionChanged first v).told ∧ o.EndsWithVersion p snapshot v) :
    o.StopsAtChange p snapshot expected [v] := by
  intro before w after first htold hfirst hdiffers
  obtain ⟨rfl, hw⟩ : before = [] ∧ [v] = w :: after := by
    cases before with
    | nil => exact ⟨rfl, htold⟩
    | cons u rest => simp at htold
  obtain ⟨rfl, rfl⟩ := List.cons.inj hw
  rw [reference, List.head?_nil, Option.or_none] at hfirst
  exact ⟨rfl, h first hfirst hdiffers⟩

lemma Outcome.EndsWithVersion.bind (hx : x.run s = ⟨.ok a, t, before⟩)
    (h : ((f a).run t).EndsWithVersion p snapshot v) :
    ((x >>= f).run s).EndsWithVersion p snapshot v := by
  obtain ⟨u, first, read, last, hread, hevents, hlast⟩ := h
  rw [Action.run_bind_of_ok hx]
  refine ⟨u, before ++ first, read, last, hread, ?_, hlast⟩
  simp only [hevents, List.append_assoc]

lemma Outcome.EndsWithVersion.lift_bind {r : Except Failure β} (hx : x.run s = ⟨.ok a, t, before⟩)
    (h : (x.run s).EndsWithVersion p snapshot v) (hf : f a = Action.lift r) :
    ((x >>= f).run s).EndsWithVersion p snapshot v := by
  obtain ⟨u, first, read, last, hread, hevents, hlast⟩ := h
  rw [hx] at hread hevents
  rw [Action.run_bind_of_ok hx, hf, Action.run_lift]
  exact ⟨u, first, read, last, hread, (List.append_nil _).trans hevents, hlast⟩

lemma Outcome.StopsAtChange.bind (h : (x.run s).StopsAtChange p snapshot expected told)
    (hx : x.run s = ⟨.ok a, t, before⟩)
    (hrest : ((f a).run t).StopsAtChange p snapshot (reference expected told) more) :
    ((x >>= f).run s).StopsAtChange p snapshot expected (told ++ more) := by
  intro earlier v later first hsplit hfirst hdiffers
  rcases List.append_eq_append_iff.mp hsplit with ⟨between, rfl, hmore⟩ | ⟨between, htold, hlater⟩
  · rw [reference_append] at hfirst
    obtain ⟨rfl, hresult, hends⟩ := hrest between v later first hmore hfirst hdiffers
    refine ⟨rfl, ?_, hends.bind hx⟩
    rw [Action.run_bind_of_ok hx, hresult]
  · -- The first part has answered, so that no version told in it differs.
    cases between with
    | nil =>
      rw [List.nil_append] at hlater
      rw [List.append_nil] at htold
      subst htold
      obtain ⟨rfl, hresult, hends⟩ := hrest [] v later first hlater.symm
        (by rwa [reference, List.head?_nil, Option.or_none]) hdiffers
      refine ⟨rfl, ?_, hends.bind hx⟩
      rw [Action.run_bind_of_ok hx, hresult]
    | cons w rest =>
      obtain ⟨rfl, -⟩ := List.cons.inj hlater
      have hresult := (h earlier v rest first htold hfirst hdiffers).2.1
      rw [hx] at hresult
      cases hresult

lemma Outcome.StopsAtChange.bind_error {e : Failure}
    (h : (x.run s).StopsAtChange p snapshot expected told) (hx : x.run s = ⟨.error e, t, before⟩)
    (f : α → Action σ β) : ((x >>= f).run s).StopsAtChange p snapshot expected told := by
  intro earlier v later first hsplit hfirst hdiffers
  obtain ⟨rfl, hresult, hends⟩ := h earlier v later first hsplit hfirst hdiffers
  rw [Action.run_bind_of_error hx]
  rw [hx] at hresult hends
  exact ⟨rfl, congrArg Except.error (Except.error.inj hresult), hends⟩

/-- A run that answers although a version may have differed has been told no version that did. -/
lemma Outcome.StopsAtChange.agreed (h : o.StopsAtChange p snapshot expected told)
    (hresult : o.result = .ok a) (hversion : reference expected told = some version) :
    ∀ v ∈ told, v = version ∨ v.same version = true := by
  intro v hv
  obtain ⟨earlier, later, rfl⟩ := List.append_of_mem hv
  rw [reference_append] at hversion
  cases hfirst : reference expected earlier with
  | none =>
    rw [hfirst] at hversion
    exact .inl (Option.some.inj hversion)
  | some first =>
    rw [hfirst] at hversion
    obtain rfl := Option.some.inj hversion
    cases hsame : v.same first with
    | true => exact .inr rfl
    | false =>
      have herror := (h earlier v later first rfl hfirst hsame).2.1
      rw [hresult] at herror
      cases herror

end Outcomes

namespace Action

/-- Over a provider that notes its versions `y` runs as `x` does over the provider itself. The run
stops at the first version that differs from what is expected, and one that answers settles what is
expected from then on. -/
def Heeds (y : Action (σ × List Value) α) (x : Action σ α) (p : Provider σ) (snapshot : Value)
    (s : σ) (expected : Option Value) (settled : α → Option Value) : Prop :=
  ∃ told, y.Tells x s told ∧ (x.run s).StopsAtChange p snapshot expected told ∧
    ∀ a, (x.run s).result = .ok a → settled a = reference expected told

variable {x : Action σ α} {y : Action (σ × List Value) α} {f : α → Action σ β}
  {g : α → Action (σ × List Value) β} {p : Provider σ} {snapshot : Value} {s : σ}
  {expected : Option Value} {settled : α → Option Value} {settled' : β → Option Value}

lemma heeds_lift (r : Except Failure α) (h : ∀ a, r = .ok a → settled a = expected) :
    (lift r).Heeds (lift r) p snapshot s expected settled := by
  refine ⟨[], tells_onFirst (lift r) s, Outcome.stopsAtChange_nil _ _ _ _, ?_⟩
  intro a ha
  rw [h a ha, reference, List.head?_nil, Option.or_none]

lemma heeds_pure (a : α) (h : settled a = expected) :
    Heeds (pure a) (pure a) p snapshot s expected settled :=
  heeds_lift (.ok a) fun _ hb => Except.ok.inj hb ▸ h

lemma heeds_log (level : Journal.Level) (source text : String) :
    (log level source text).Heeds (log level source text) p snapshot s expected fun _ => expected := by
  refine ⟨[], tells_onFirst (log level source text) s, Outcome.stopsAtChange_nil _ _ _ _, ?_⟩
  intro a ha
  rw [reference, List.head?_nil, Option.or_none]

lemma Heeds.bind (h : y.Heeds x p snapshot s expected settled)
    (hrest : ∀ a t, (x.run s).result = .ok a →
      (g a).Heeds (f a) p snapshot t (settled a) settled') :
    (y >>= g).Heeds (x >>= f) p snapshot s expected settled' := by
  obtain ⟨told, htells, hstops, hsettled⟩ := h
  cases hrun : x.run s with
  | mk result t before =>
    cases result with
    | error e =>
      refine ⟨told, htells.bind_error hrun f g, hstops.bind_error hrun f, ?_⟩
      intro b hb
      rw [run_bind_of_error hrun] at hb
      cases hb
    | ok a =>
      have hok : (x.run s).result = .ok a := congrArg Outcome.result hrun
      obtain ⟨more, htells', hstops', hsettled'⟩ := hrest a t hok
      rw [hsettled a hok] at hstops' hsettled'
      refine ⟨told ++ more, htells.bind hrun htells', hstops.bind hrun hstops', ?_⟩
      intro b hb
      rw [run_bind_of_ok hrun] at hb
      rw [hsettled' b hb, reference_append]

end Action

namespace LoadRequest

/-- One batch of a load: a scan, and the version that is settled after it. -/
def settledScan (scanner : Scanner σ) (r : LoadRequest) (cursor steps : Value) (known : Option Value) :
    Action σ (ScanResult × Value) := do
  let result ← scanner.scan ⟨r.snapshot, cursor, .ok r.direction, steps, r.spacing⟩
  let version ← Action.lift (agreed known result.version)
  pure (result, version)

lemma agreed_cases (known : Option Value) (observed : Value) :
    (∃ first, known = some first ∧ observed.same first = false ∧
      agreed known observed = .error (Failure.versionChanged first observed).told) ∨
    ∃ version, (∀ first, known = some first → observed.same first = true) ∧
      agreed known observed = .ok version ∧ reference known [observed] = some version := by
  cases known with
  | none =>
    refine .inr ⟨observed, fun first hfirst => ?_, rfl, rfl⟩
    cases hfirst
  | some first =>
    cases hsame : observed.same first with
    | false =>
      refine .inl ⟨first, rfl, hsame, ?_⟩
      rw [agreed, hsame, if_neg Bool.false_ne_true]
      rfl
    | true =>
      refine .inr ⟨first, fun _ h => Option.some.inj h ▸ hsame, ?_, rfl⟩
      rw [agreed, hsame, if_pos rfl]

variable (p : Provider σ) (domain : KeyDomain) (r : LoadRequest)

lemma heeds_settledScan (cursor steps : Value) (known : Option Value) (s : σ) :
    (settledScan ⟨p.noting, domain⟩ r cursor steps known).Heeds
      (settledScan ⟨p, domain⟩ r cursor steps known) p r.snapshot s known
      fun settled => some settled.2 := by
  unfold settledScan
  rcases Scanner.tells_scan p domain ⟨r.snapshot, cursor, .ok r.direction, steps, r.spacing⟩ s with
    ⟨e, hresult, htells⟩ | ⟨result, hresult, htells, hends⟩
  · obtain ⟨t, events, hrun⟩ := Action.exists_run hresult
    refine ⟨[], htells.bind_error hrun _ _, Outcome.stopsAtChange_nil _ _ _ _, fun a ha => ?_⟩
    rw [Action.run_bind_of_error hrun] at ha
    cases ha
  · obtain ⟨t, events, hrun⟩ := Action.exists_run hresult
    rcases agreed_cases known result.version with ⟨first, rfl, hdiffers, hagreed⟩ |
      ⟨version, hsame, hagreed, hreference⟩
    · refine ⟨[result.version], htells.bind hrun ?_, ?_, ?_⟩
      · rw [hagreed]
        exact Action.tells_onFirst (Action.lift (.error _)) t
      · refine Outcome.stopsAtChange_singleton fun _ hfirst _ => ?_
        obtain rfl := Option.some.inj hfirst
        refine ⟨?_, hends.lift_bind hrun (congrArg (· >>= _) (congrArg Action.lift hagreed))⟩
        rw [Action.run_bind_of_ok hrun, hagreed]
        rfl
      · intro a ha
        rw [Action.run_bind_of_ok hrun, hagreed] at ha
        cases ha
    · refine ⟨[result.version], htells.bind hrun ?_, ?_, ?_⟩
      · rw [hagreed]
        exact Action.tells_onFirst (pure (result, version)) t
      · refine Outcome.stopsAtChange_singleton fun first hfirst hdiffers => ?_
        rw [hsame first hfirst] at hdiffers
        cases hdiffers
      · intro a ha
        rw [Action.run_bind_of_ok hrun, hagreed] at ha
        cases ha
        exact hreference.symm

/-- A scan whose version is settled before anything else is done. -/
lemma heeds_scan_bind (cursor steps : Value) (known : Option Value) (s : σ)
    {k : ScanResult → Value → Action σ α} {k' : ScanResult → Value → Action (σ × List Value) α}
    {settled : α → Option Value}
    (hrest : ∀ result version t,
      (k' result version).Heeds (k result version) p r.snapshot t (some version) settled) :
    (do
      let result ← Scanner.scan ⟨p.noting, domain⟩
        ⟨r.snapshot, cursor, .ok r.direction, steps, r.spacing⟩
      let version ← Action.lift (agreed known result.version)
      k' result version : Action (σ × List Value) α).Heeds (do
        let result ← Scanner.scan ⟨p, domain⟩
          ⟨r.snapshot, cursor, .ok r.direction, steps, r.spacing⟩
        let version ← Action.lift (agreed known result.version)
        k result version) p r.snapshot s known settled := by
  have hboth := (heeds_settledScan p domain r cursor steps known s).bind
    fun scanned t _ => hrest scanned.1 scanned.2 t
  unfold settledScan at hboth
  simpa only [bind_assoc, pure_bind] using hboth

lemma heeds_loop (fuel : Nat) (cursor : Value) (loaded : Loaded) (s : σ) :
    (loop ⟨p.noting, domain⟩ r fuel cursor loaded).Heeds (loop ⟨p, domain⟩ r fuel cursor loaded) p
      r.snapshot s loaded.version Loaded.version := by
  induction fuel generalizing cursor loaded s with
  | zero => exact Action.heeds_pure loaded rfl
  | succ fuel ih =>
    unfold loop
    refine (Action.heeds_lift _ fun _ _ => rfl).bind fun more t _ => ?_
    cases more with
    | false => exact Action.heeds_pure loaded rfl
    | true =>
      refine (Action.heeds_lift _ fun _ _ => rfl).bind fun steps t _ => ?_
      -- What this batch settles is known to the next one, for which the induction speaks.
      refine heeds_scan_bind p domain r cursor steps loaded.version t fun result version t => ?_
      cases result.exhausted with
      | true => exact Action.heeds_pure _ rfl
      | false =>
        cases result.lastTick? with
        | none => exact Action.heeds_pure _ rfl
        | some last => exact ih _ _ t

end LoadRequest

variable (p : Provider σ) (domain : KeyDomain)

lemma heeds_version (snapshot : Value) (s : σ) :
    (p.noting.version snapshot).Heeds (p.version snapshot) p snapshot s none some := by
  rcases p.tells_version snapshot s with ⟨e, t, events, hrun, htells⟩ | ⟨v, t, events, hrun, htells⟩
  · refine ⟨[], htells, Outcome.stopsAtChange_nil _ _ _ _, fun a ha => ?_⟩
    rw [hrun] at ha
    cases ha
  · refine ⟨[v], htells, Outcome.stopsAtChange_singleton fun first hfirst => ?_, fun a ha => ?_⟩
    · cases hfirst
    · rw [hrun] at ha
      cases ha
      rfl

lemma heeds_loadTicks (r : LoadRequest) (s : σ) :
    (loadTicks ⟨p.noting, domain⟩ r).Heeds (loadTicks ⟨p, domain⟩ r) p r.snapshot s r.expected
      fun loaded => some loaded.2 := by
  unfold loadTicks
  refine (Action.heeds_lift r.check fun _ _ => rfl).bind fun _ t _ => ?_
  refine (LoadRequest.heeds_loop p domain r r.fuel r.start ⟨[], r.expected, 0⟩ t).bind
    fun loaded t _ => ?_
  cases loaded.version with
  | some version =>
    have hknown : Action.Heeds (pure version) (pure version) p r.snapshot t (some version) some :=
      Action.heeds_pure version rfl
    refine hknown.bind fun version t _ => ?_
    exact (Action.heeds_log _ _ _).bind fun _ t _ => Action.heeds_pure _ rfl
  | none =>
    refine (heeds_version p r.snapshot t).bind fun version t _ => ?_
    exact (Action.heeds_log _ _ _).bind fun _ t _ => Action.heeds_pure _ rfl

lemma heeds_loadBand (r : BandRequest) (s : σ) :
    (loadBand ⟨p.noting, domain⟩ r).Heeds (loadBand ⟨p, domain⟩ r) p r.snapshot s none
      fun band => some band.version := by
  unfold loadBand
  refine (heeds_loadTicks p domain _ s).bind fun below t _ => ?_
  have hupper := heeds_loadTicks p domain
    ⟨r.snapshot, r.current, .exclusive, r.spacing, r.band, r.batch, some below.2⟩ t
  refine hupper.bind fun above t habove => ?_
  refine (Action.heeds_lift _ fun _ _ => rfl).bind fun _ t _ => ?_
  refine (Action.heeds_log _ _ _).bind fun _ t _ => Action.heeds_pure _ ?_
  -- The upper side has answered, so that it has settled on the version of the lower side.
  obtain ⟨told, -, -, hsettled⟩ := hupper
  exact (hsettled above habove).symm

/-- A call that heeds the versions it is told and answers one of them. The list of the versions is the
one that the noting provider keeps. -/
structure Outcome.SeesOneVersion (o : Outcome σ α) (p : Provider σ) (snapshot : Value)
    (expected : Option Value) (versionOf : α → Value) (told : List Value) : Prop where
  settled : ∀ a, o.result = .ok a → reference expected told = some (versionOf a)
  agreed : ∀ a, o.result = .ok a → ∀ v ∈ told, v = versionOf a ∨ v.same (versionOf a) = true
  stops : o.StopsAtChange p snapshot expected told

lemma Action.Heeds.seesOneVersion {x : Action σ α} {y : Action (σ × List Value) α} {p : Provider σ}
    {snapshot : Value} {s : σ} {expected : Option Value} {versionOf : α → Value}
    (h : y.Heeds x p snapshot s expected fun a => some (versionOf a)) :
    ∃ told, y.Tells x s told ∧
      (x.run s).SeesOneVersion p snapshot expected versionOf told := by
  obtain ⟨told, htells, hstops, hsettled⟩ := h
  refine ⟨told, htells, fun a ha => (hsettled a ha).symm, fun a ha => ?_, hstops⟩
  exact hstops.agreed ha (hsettled a ha).symm

/-- No load mixes versions, whatever the provider tells and however often its version changes. A load
or a band that returns has been told no other version than the one it answers, which is the one
expected beforehand or else the first one told; the first version that differs ends the call, with both
versions in the error if they can be written, and nothing is asked after it. -/
theorem loads_see_one_version (s : σ) :
    (∀ r : LoadRequest, ∃ told,
      (loadTicks ⟨p.noting, domain⟩ r).Tells (loadTicks ⟨p, domain⟩ r) s told ∧
      ((loadTicks ⟨p, domain⟩ r).run s).SeesOneVersion p r.snapshot r.expected Prod.snd told) ∧
    (∀ r : BandRequest, ∃ told,
      (loadBand ⟨p.noting, domain⟩ r).Tells (loadBand ⟨p, domain⟩ r) s told ∧
      ((loadBand ⟨p, domain⟩ r).run s).SeesOneVersion p r.snapshot none TickBand.version told) ∧
    ∀ first v : Value, first.isShort = true → v.isShort = true →
      (Failure.versionChanged first v).told = .versionChanged first v := by
  refine ⟨fun r => (heeds_loadTicks p domain r s).seesOneVersion,
    fun r => (heeds_loadBand p domain r s).seesOneVersion, ?_⟩
  intro first v hfirst hv
  apply Failure.told_of_short
  exact List.forall_mem_cons.mpr ⟨hfirst, List.forall_mem_singleton.mpr hv⟩

/-- The version changes between the two sides of a band: the first batch of the upper side is refused. -/
theorem band_sees_version_change :
    let script : Script := ⟨
      [.answer (.list [.bool true, .int 5]), .answer (.list [.bool true, .int 20])],
      [.answer (.list [.int 1, .int 1]), .answer (.list [.int 2, .int 2])],
      [.answer (.int 7), .answer (.int 8)]⟩
    let r : BandRequest := ⟨.null, .int 10, .int 1, .int 1, .int 1⟩
    let told := ((loadBand ⟨Script.provider.noting, ⟨-100, 100⟩⟩ r).run (script, [])).state.2
    let o := (loadBand ⟨Script.provider, ⟨-100, 100⟩⟩ r).run script
    told = [.int 7, .int 8] ∧ o.result = .error (.versionChanged (.int 7) (.int 8)) ∧
      o.EndsWithVersion Script.provider .null (.int 8) := by
  intro script r told o
  obtain ⟨-, hbands, hmessage⟩ := loads_see_one_version Script.provider ⟨-100, 100⟩ script
  obtain ⟨versions, htells, hsees⟩ := hbands r
  have htold : told = versions := congrArg (fun run => run.state.2) (htells [])
  have hlist : told = [.int 7] ++ .int 8 :: [] := rfl
  obtain ⟨-, hresult, hends⟩ := hsees.stops _ _ _ (.int 7) (htold.symm.trans hlist) rfl rfl
  rw [hmessage _ _ rfl rfl] at hresult
  exact ⟨hlist, hresult, hends⟩

/-- A single batch may report a version that is not equal to itself, and the load returns it. A second
version that is too long to be written is refused, but not told. -/
theorem load_mixes_untold_versions :
    let nan : Value := .float (Float.ofBits 0x7ff8000000000000)
    let long : Value := .int (Nat.pow 10 Text.digitLimit : Nat)
    let script (versions : List Value) : Script := ⟨
      [.answer (.list [.bool true, .int 5]), .answer (.list [.bool true, .int 6])],
      [.answer (.list [.int 1, .int 1]), .answer (.list [.int 2, .int 2])], versions.map .answer⟩
    let load (count : Int) := loadTicks ⟨Script.provider, ⟨-100, 100⟩⟩
      ⟨.null, .int 0, .exclusive, .int 1, .int count, .int 1, none⟩
    ((load 1).run (script [nan])).result = .ok ([⟨true, 5, 1, 1⟩], nan) ∧ nan.same nan = false ∧
      ((load 2).run (script [.text "first", long])).result = .error (.tooManyDigits none) := by
  intro nan long script load
  have hresult : ((load 2).run (script [.text "first", long])).result =
      .error (Failure.versionChanged (.text "first") long).told := rfl
  have hlong : long.isShort = false := Value.isShort_of_le (Int.natAbs_natCast _).ge
  rw [Failure.told_of_long (List.mem_cons_of_mem _ List.mem_cons_self) hlong] at hresult
  exact ⟨rfl, rfl, hresult⟩

end TickWalk
