import TickWalk.Proofs.Command.Naming
import TickWalk.Proofs.Command.Run
import TickWalk.Proofs.Command.View
import TickWalk.Proofs.Journal.Logger

/-!
# Calling a chain by its name or by its number

A chain is called by an option or by the environment, in both cases by a text. As a text the number of a
chain is the name of none, so that a command that asks for the chain is refused when it is called by its
number, and not when it is called by its name. Only commands that do not ask for it, because the endpoint
and the contract are given, leave the same session for both.
-/

namespace TickWalk

/-! ### Chain reads of a sequence -/

namespace Action

variable {σ α β : Type} {x : Action σ α} {f : α → Action σ β} {s : σ}

lemma chainReads_of_bind (h : TickWalk.chainReads ((x >>= f).run s).events = []) :
    TickWalk.chainReads (x.run s).events = [] := by
  cases hx : x.run s with
  | mk result t before =>
    cases result with
    | error e =>
      rw [run_bind_of_error hx] at h
      exact h
    | ok a =>
      rw [run_bind_of_ok hx, chainReads_append] at h
      exact (List.append_eq_nil_iff.mp h).1

lemma chainReads_note_bind (read : ChainRead) (f : Unit → Action σ β) (s : σ) :
    TickWalk.chainReads ((note (.chain read) >>= f).run s).events ≠ [] := by
  intro h
  cases chainReads_of_bind h

end Action

/-! ### Messages told apart -/

namespace Failure

/-- The letters that the message begins with, as many as are needed to tell the messages apart. -/
def initials (e : Failure) : List Char := e.message.toList.take 3

lemma toString_text (s : String) : toString s = s := rfl

lemma initials_unsupportedChain (name : String) (supported : List String) :
    (unsupportedChain name supported).initials = ['U', 'n', 's'] := by
  unfold initials message
  simp [toString_text]

lemma initials_tooManyDigits : (tooManyDigits none).initials = ['E', 'x', 'c'] := by
  unfold initials message
  simp [toString_text]

lemma initials_unresolvedBlock (block : Value) (cause : Failure) :
    (unresolvedBlock block cause).initials = ['C', 'o', 'u'] := by
  unfold initials message
  simp [toString_text]

lemma initials_told_unresolvedBlock_ne (block : Value) (cause : Failure) :
    (unresolvedBlock block cause).told.initials ≠ ['U', 'n', 's'] := by
  rcases told_eq_or (unresolvedBlock block cause) with htold | htold
  · rw [htold, initials_unresolvedBlock]
    decide
  · rw [htold, initials_tooManyDigits]
    decide

lemma OfNames.initials_ne {e : Failure} (h : e.OfNames) : e.initials ≠ ['U', 'n', 's'] := by
  unfold initials message
  cases h with
  | untold => simp [toString_text]
  | identifier h =>
    cases h with
    | notAscii first start stop =>
      dsimp only
      split <;> simp [toString_text]
    | notHex => simp
    | length count => simp [toString_text]
  | order => simp
  | unnamed => simp
  | address | fee | spacing | notHexText | malformed => simp [toString_text]

end Failure

namespace Command

open Options

variable {env env' : Environment} {i : Invocation} {p : PoolArguments} {v : StateView}
  {node after : Node} {line called : List String} {chain : String} {e : Failure}

/-! ### Reports -/

def report (e : Failure) : Journal.Line := ⟨Journal.Level.error, source, s!"Error: {e.message}"⟩

/-- The report on standard error, behind the name of its logger when the command tells details. -/
def reportText (debug : Bool) (e : Failure) : String :=
  (if debug then "ticklens - " else "") ++ ("ERROR - Error: " ++ (e.message ++ "\n"))

section

open Journal

lemma text_report (debug : Bool) (e : Failure) :
    ((commandSetup debug none).handler .stderr).text (report e) = reportText debug e := by
  have hstart : "ERROR - Error: " = "ERROR" ++ (" - " ++ "Error: ") := by decide
  have hsource : "ticklens - " = "ticklens" ++ " - " := by decide
  unfold reportText
  rw [hstart, hsource]
  cases debug with
  | false =>
    change "ERROR" ++ " - " ++ ("Error: " ++ e.message) ++ "\n" = "" ++ _
    simp only [String.append_assoc, String.empty_append]
  | true =>
    change "ticklens" ++ " - " ++ "ERROR" ++ " - " ++ ("Error: " ++ e.message) ++ "\n" =
      "ticklens" ++ " - " ++ _
    simp only [String.append_assoc]

lemma journalText_report (debug : Bool) (e : Failure) :
    journalText debug [.line (report e)] = reportText debug e := by
  let setup := commandSetup debug none
  have hsilent : Registry.empty.Silent "ticklens" := fun _ _ => rfl
  have hfor : ∀ s ∈ [setup], s.ForConsole "ticklens" := List.forall_mem_singleton.mpr ⟨rfl, rfl, rfl⟩
  have hlevel : 0 < setup.level ∧ setup.level ≤ Level.error := by cases debug <;> decide
  have hpass : 0 < (report e).level := (by decide : 0 < Level.error)
  have hthreshold : (Registry.empty.configure [setup]).threshold "ticklens" = setup.level :=
    Registry.threshold_configure hsilent hfor rfl (Int.ne_of_gt hlevel.1)
  have hwrite := Registry.write_configure (l := report e) hsilent hfor rfl rfl
  rw [hthreshold, if_pos ⟨hpass, hlevel.2, hlevel.2⟩, text_report] at hwrite
  change textAt .stderr ((Registry.empty.configure [setup]).write (report e) ++ []) = _
  rw [List.append_nil, hwrite]
  exact String.empty_append

end

lemma message_eq_of_reportText {debug : Bool} {e e' : Failure}
    (h : reportText debug e = reportText debug e') : e.message = e'.message := by
  unfold reportText at h
  rwa [String.append_right_inj, String.append_right_inj, String.append_left_inj] at h

/-! ### Sessions of a command -/

/-- The session of a command that has been read from a line. -/
def Invocation.session (env : Environment) (i : Invocation) (node : Node) : Session :=
  let o := (perform env i).run node
  let stderr := journalText i.pool.debug o.events
  match o.result with
  | .ok r => ⟨r.exit, r.output, stderr, chainReads o.events⟩
  | .error e => ⟨.error e, "", stderr, chainReads o.events⟩

lemma session_of_read (h : read line = .ok (some i)) (env : Environment) (node : Node) :
    session env line node = i.session env node := by
  unfold session
  rw [h]
  rfl

lemma session_of_no_command (hread : ∀ i, read line ≠ .ok (some i)) (h : read called = read line)
    (env env' : Environment) (node : Node) : session env called node = session env' line node := by
  unfold session
  rw [h]
  cases hline : read line with
  | error stop => cases stop <;> rfl
  | ok command =>
    cases command with
    | none => rfl
    | some i => exact absurd hline (hread i)

lemma session_eq_of_run {i' : Invocation} (hrun : run env i = run env' i')
    (hdebug : i.pool.debug = i'.pool.debug) (node : Node) :
    i.session env node = i'.session env' node := by
  unfold Invocation.session perform
  rw [hrun, hdebug]

lemma reads_session (env : Environment) (i : Invocation) (node : Node) :
    (i.session env node).reads = TickWalk.chainReads ((run env i).run node).events := by
  have hperform : ∃ r t more, (perform env i).run node =
      ⟨.ok r, t, ((run env i).run node).events ++ more⟩ ∧ TickWalk.chainReads more = [] := by
    unfold perform
    rw [Action.run_bind_of_ok (Action.run_attempt _ _)]
    have hconclude (output : String) (e : Failure) (after : Node) : ∃ r more,
        (conclude output e).run after = ⟨.ok r, after, more⟩ ∧ TickWalk.chainReads more = [] := by
      unfold conclude
      cases e.isReported with
      | true => exact ⟨_, [.line (report e)], rfl, rfl⟩
      | false => exact ⟨_, [], rfl, rfl⟩
    cases ((run env i).run node).result with
    | ok out =>
      obtain ⟨text, stopped⟩ := out
      cases stopped with
      | none => exact ⟨_, _, [], rfl, rfl⟩
      | some e =>
        obtain ⟨r, more, hrun, hmore⟩ := hconclude text e ((run env i).run node).state
        dsimp only
        rw [hrun]
        exact ⟨r, _, more, rfl, hmore⟩
    | error e =>
      obtain ⟨r, more, hrun, hmore⟩ := hconclude "" e ((run env i).run node).state
      dsimp only
      rw [hrun]
      exact ⟨r, _, more, rfl, hmore⟩
  obtain ⟨r, t, more, hperform, hmore⟩ := hperform
  unfold Invocation.session
  rw [hperform]
  dsimp only
  rw [chainReads_eq, TickWalk.chainReads_append, hmore, List.append_nil]

lemma session_of_fail (h : (run env i).run node = ⟨.error e, after, []⟩)
    (he : e.isReported = true) :
    i.session env node = ⟨.ok 1, "", reportText i.pool.debug e, []⟩ := by
  have hperform : (perform env i).run node = ⟨.ok ⟨.ok 1, ""⟩, after, [.line (report e)]⟩ := by
    unfold perform
    rw [Action.run_bind_of_ok (Action.run_attempt _ _), h]
    dsimp only
    unfold conclude
    rw [if_pos he]
    rfl
  unfold Invocation.session
  rw [hperform, ← journalText_report]
  rfl

/-! ### Commands with a chain -/

/-- The arguments with the chain called so. -/
def PoolArguments.onChain (p : PoolArguments) (chain : String) : PoolArguments :=
  { p with chain := some chain }

def Invocation.onChain (i : Invocation) (chain : String) : Invocation :=
  match i with
  | .scan a => .scan { a with pool := a.pool.onChain chain }
  | .band a => .band { a with pool := a.pool.onChain chain }

lemma pool_onChain (i : Invocation) (chain : String) :
    (i.onChain chain).pool = i.pool.onChain chain := by
  cases i <;> rfl

lemma debug_onChain (i : Invocation) (chain : String) :
    (i.onChain chain).pool.debug = i.pool.debug := by
  rw [pool_onChain]
  rfl

lemma view_onChain (env : Environment) (p : PoolArguments) (chain : String) :
    (p.onChain chain).view env = p.viewOn env (Network.ofName chain) := PoolArguments.view_eq _ _

lemma view_of_chain_eq_none (h : p.chain = none) (env : Environment) (chain : String) :
    p.view { env with chain := some chain } = (p.onChain chain).view env := by
  rw [view_onChain, PoolArguments.view_eq]
  unfold PoolArguments.network
  rw [h]
  rfl

/-- A command names its view, settles the block, and goes on from there as it would with any other chain
and in any other environment. -/
lemma exists_run_eq (i : Invocation) : ∃ rest : StateView → Int → Action Node Printout,
    (∀ env, run env i = (Action.lift (i.pool.view env) >>= fun v =>
      v.pinBlock i.pool.blockReference >>= rest v)) ∧
    ∀ env chain, run env (i.onChain chain) = (Action.lift ((i.pool.onChain chain).view env) >>= fun v =>
      v.pinBlock i.pool.blockReference >>= rest v) := by
  cases i with
  | scan a => exact ⟨_, fun _ => rfl, fun _ _ => rfl⟩
  | band a => exact ⟨_, fun _ => rfl, fun _ _ => rfl⟩

lemma run_of_view_error (h : i.pool.view env = .error e) (node : Node) :
    (run env i).run node = ⟨.error e, node, []⟩ := by
  obtain ⟨rest, hrun, -⟩ := exists_run_eq i
  rw [hrun, h]
  rfl

/-- Behind an endpoint the block is settled by a chain read, unless the reference to it is refused. -/
lemma pinBlock_of_chainReads {url : String} (hurl : v.transport = .endpoint url)
    (h : TickWalk.chainReads ((v.pinBlock p.blockReference).run node).events = []) :
    ∃ cause, (v.pinBlock p.blockReference).run node =
      ⟨.error (Failure.unresolvedBlock p.blockReference cause).told, node, []⟩ := by
  rw [StateView.pinBlock_eq] at h ⊢
  have hsettle := Action.chainReads_of_bind h
  change TickWalk.chainReads ((v.settle p.blockReference).run node).events = [] at hsettle
  unfold PoolArguments.blockReference at hsettle ⊢
  cases hblock : p.block with
  | none =>
    rw [hblock] at hsettle
    have hread := Action.chainReads_of_bind (x := v.transport.blockNumber) hsettle
    rw [hurl] at hread
    exact absurd hread (Action.chainReads_note_bind _ _ _)
  | some n =>
    rw [hblock] at hsettle
    have hread := Action.chainReads_of_bind (x := v.transport.block (.int n)) hsettle
    rw [hurl] at hread
    cases href : BlockReference.ofValue (.int n) with
    | ok r =>
      unfold Transport.block at hread
      dsimp only at hread
      rw [href, Action.lift_ok_bind] at hread
      exact absurd hread (Action.chainReads_note_bind _ _ _)
    | error cause =>
      refine ⟨cause, ?_⟩
      unfold StateView.settle Transport.block
      rw [hurl]
      dsimp only
      rw [href]
      rfl

lemma run_of_chainReads (h : TickWalk.chainReads ((run env i).run node).events = []) :
    ∃ e, (run env i).run node = ⟨.error e, node, []⟩ ∧
      (i.pool.view env = .error e ∨
        ∃ reference cause, e = (Failure.unresolvedBlock reference cause).told) := by
  cases hview : i.pool.view env with
  | error e => exact ⟨e, run_of_view_error hview node, .inl rfl⟩
  | ok v =>
    obtain ⟨rest, hrun, -⟩ := exists_run_eq i
    obtain ⟨url, hurl⟩ := exists_endpoint_of_view hview
    rw [hrun, hview, Action.lift_ok_bind] at h ⊢
    obtain ⟨cause, hpin⟩ := pinBlock_of_chainReads hurl (Action.chainReads_of_bind h)
    exact ⟨_, Action.run_bind_of_error hpin, .inr ⟨_, _, rfl⟩⟩

/-- A command that does not ask for the chain leaves the same session whatever the chain is called. -/
theorem session_of_not_asksChain (h : ¬ i.pool.AsksChain env) (node : Node) (chain chain' : String) :
    (i.onChain chain).session env node = (i.onChain chain').session env node := by
  have hview : (i.pool.onChain chain).view env = (i.pool.onChain chain').view env := by
    rw [view_onChain, view_onChain]
    exact PoolArguments.viewOn_of_not_asksChain h _ _
  obtain ⟨rest, -, hrun⟩ := exists_run_eq i
  have hsame : run env (i.onChain chain) = run env (i.onChain chain') := by rw [hrun, hrun, hview]
  exact session_eq_of_run hsame (by rw [debug_onChain, debug_onChain]) node

/-- A command that asks for a chain which no network is called fails at once and reports it. -/
theorem session_of_asksChain (h : i.pool.AsksChain env) (node : Node)
    (hchain : Network.ofName chain = .error e) (he : e.isReported = true) :
    (i.onChain chain).session env node = ⟨.ok 1, "", reportText i.pool.debug e, []⟩ := by
  have hview : (i.onChain chain).pool.view env = .error e := by
    rw [pool_onChain, view_onChain, hchain]
    exact PoolArguments.viewOn_of_asksChain h e
  rw [session_of_fail (run_of_view_error hview node) he, debug_onChain]

/-- A command over a known chain reports no chain as unknown. -/
theorem session_ne_of_ofName {n : Network} (hchain : Network.ofName chain = .ok n) (env : Environment)
    (i : Invocation) (node : Node) (name : String) (supported : List String) :
    (i.onChain chain).session env node ≠
      ⟨.ok 1, "", reportText i.pool.debug (.unsupportedChain name supported), []⟩ := by
  intro h
  have hreads := (reads_session env (i.onChain chain) node).symm.trans (congrArg Session.reads h)
  obtain ⟨e, hrun, hcause⟩ := run_of_chainReads hreads
  have hkind : e.isReported = true ∧ e.initials ≠ ['U', 'n', 's'] := by
    rcases hcause with hview | ⟨reference, cause, rfl⟩
    · rw [pool_onChain, view_onChain, hchain] at hview
      have hnames : e.OfNames :=
        PoolArguments.failsOnly_viewOn (fun _ he => he) (failsOnly_ok n) env i.pool e hview
      exact ⟨hnames.isReported, hnames.initials_ne⟩
    · exact ⟨Failure.isReported_told rfl, Failure.initials_told_unresolvedBlock_ne reference cause⟩
  have hstderr : reportText i.pool.debug e =
      reportText i.pool.debug (.unsupportedChain name supported) := by
    rw [session_of_fail hrun hkind.1, debug_onChain] at h
    exact congrArg Session.stderr h
  apply hkind.2
  rw [← Failure.initials_unsupportedChain name supported, Failure.initials,
    message_eq_of_reportText hstderr]
  rfl

/-! ### Lines that call a chain -/

/-- The chain is called so besides all that a line says: by another line that is read as it is but for the
chain, or, when the line itself calls none, by the environment. -/
inductive Calls (env : Environment) (line : List String) (chain : String) :
    Environment → List String → Prop
  | option {called : List String} (h : read called = (read line).map (Option.map (·.onChain chain))) :
      Calls env line chain env called
  | environment (h : ∀ i, read line = .ok (some i) → i.pool.chain = none) :
      Calls env line chain { env with chain := some chain } line

lemma Calls.session_of_command (h : Calls env line chain env' called)
    (hread : read line = .ok (some i)) (node : Node) :
    session env' called node = (i.onChain chain).session env node := by
  cases h with
  | option h =>
    rw [hread] at h
    exact session_of_read h env node
  | environment h =>
    obtain ⟨rest, hrun, hcalled⟩ := exists_run_eq i
    have hsame : run { env with chain := some chain } i = run env (i.onChain chain) := by
      rw [hrun, hcalled, view_of_chain_eq_none (h i hread)]
    rw [session_of_read hread]
    exact session_eq_of_run hsame (debug_onChain i chain).symm node

lemma Calls.session_of_no_command (h : Calls env line chain env' called)
    (hread : ∀ i, read line ≠ .ok (some i)) (node : Node) :
    session env' called node = session env line node := by
  cases h with
  | environment => exact Command.session_of_no_command hread rfl _ _ _
  | option h =>
    refine Command.session_of_no_command hread ?_ _ _ _
    rw [h]
    cases hline : read line with
    | error stop => rfl
    | ok command =>
      cases command with
      | none => rfl
      | some i => exact absurd hline (hread i)

variable {c : Options.Command} {others ns : List (List String)}

lemma pool_ofSettings (name : String) (s : Settings) :
    (Invocation.ofSettings name s).pool = PoolArguments.ofSettings s := by
  unfold Invocation.ofSettings
  dsimp only
  split <;> rfl

lemma ofSettings_onChain {s t : Settings} (name : String) (hchain : s.text? "--chain" = some chain)
    (hother : ∀ key, key ≠ "--chain" → s.value? key = t.value? key) :
    Invocation.ofSettings name s = (Invocation.ofSettings name t).onChain chain := by
  have htext (key : String) (hkey : key ≠ "--chain") : s.text? key = t.text? key := by
    rw [Settings.text?, Settings.text?, hother key hkey]
  have hinteger (key : String) (hkey : key ≠ "--chain") : s.integer? key = t.integer? key := by
    rw [Settings.integer?, Settings.integer?, hother key hkey]
  have hset (key : String) (hkey : key ≠ "--chain") : s.isSet key = t.isSet key := by
    rw [Settings.isSet, Settings.isSet, hother key hkey]
  have hpool : PoolArguments.ofSettings s = (PoolArguments.ofSettings t).onChain chain := by
    unfold PoolArguments.ofSettings PoolArguments.onChain
    rw [hchain, htext "--pool-id" (by decide), htext "--currency0" (by decide),
      htext "--currency1" (by decide), hinteger "--fee" (by decide), htext "--hooks" (by decide),
      hinteger "--tick-spacing" (by decide), hinteger "--block" (by decide),
      htext "--rpc-url" (by decide), htext "--state-view" (by decide), hset "--json" (by decide),
      hset "--debug" (by decide)]
  unfold Invocation.ofSettings
  dsimp only
  split
  · rw [hpool, hinteger "--start-tick" (by decide), htext "--direction" (by decide),
      hinteger "--steps" (by decide)]
    rfl
  · rw [hpool, hinteger "--current-tick" (by decide), hinteger "--band" (by decide),
      hinteger "--batch" (by decide)]
    rfl

/-- A line with the option among others is read as the others are, with the chain called so; the others
call none. -/
lemma read_of_mixes (hc : c ∈ menu.commands) (hchain : chain.toList.head? ≠ some '-')
    (hothers : ∀ args ∈ others, c.form.Apart ["--chain"] args)
    (hline : Mixes [["--chain", chain]] others ns) :
    read (c.name :: ns.flatten) =
        (read (c.name :: others.flatten)).map (Option.map (·.onChain chain)) ∧
      ∀ i, read (c.name :: others.flatten) = .ok (some i) → i.pool.chain = none := by
  obtain ⟨named, hnamed, hline⟩ := hline
  obtain rfl := List.perm_singleton.mp hnamed
  have hself : Interleaved [] others others := by
    have h := Interleaved.nil.append_left others
    rwa [List.append_nil] at h
  have hgives : c.form.Gives ["--chain", chain] ("--chain", .text chain) :=
    gives_text hc (by decide +kernel) hchain
  have hrequired : ∀ i ∈ c.form.items, i.required = true → i.key ≠ "--chain" := by
    rcases mem_commands_iff.mp hc with rfl | rfl <;> decide +kernel
  have hreadings : menu.form.readings "--chain" = [] := by decide +kernel
  have hmarks := Form.marks_alike_of_interleaved hline hself
    (List.forall_mem_singleton.mpr (exists_marks_menu hc hgives hreadings))
    (List.forall_mem_nil _) fun args h => (hothers args h).separator
  have hread := Form.readAlike hline hself (.cons hgives .nil) .nil hothers (List.Subset.refl _)
    (List.nil_subset _) fun i hi hrequire hkey =>
      absurd (List.mem_singleton.mp hkey) (hrequired i hi hrequire)
  rw [read_command hc, read_command hc]
  obtain ⟨e, hms, hms'⟩ | ⟨ms, ms', hms, hms'⟩ := hmarks
  · rw [hms, hms']
    exact ⟨rfl, by rintro i ⟨⟩⟩
  · rw [hms, hms']
    dsimp only
    generalize c.form.read ns.flatten = x at hread
    generalize c.form.read others.flatten = y at hread
    cases hread with
    | stopped stop => exact ⟨rfl, by rintro i ⟨⟩⟩
    | @settled own all all' left hown hall hall' =>
      have hunset : "--chain" ∉ own.map Prod.fst := by
        intro hmem
        obtain ⟨setting, hsetting, hkey⟩ := List.mem_map.mp hmem
        exact hown setting hsetting (hkey ▸ List.mem_singleton_self _)
      have hset : all.text? "--chain" = some chain := by
        apply text?_of_value?
        rw [Settings.value?, Value.field?_eq_left hall hunset]
        rfl
      have hnone : all'.text? "--chain" = none := by
        rw [Settings.text?, Settings.value?, Value.field?_eq_right hall' List.not_mem_nil,
          Value.field?_eq_none hunset]
      have hother : ∀ key, key ≠ "--chain" → all.value? key = all'.value? key := by
        intro key hkey
        rw [Settings.value?, Settings.value?, Value.field?_eq_right hall' List.not_mem_nil,
          Value.field?_eq_right hall fun hmem => hkey (List.mem_singleton.mp hmem)]
      rw [ok_bind, ok_bind]
      dsimp only
      split
      · refine ⟨?_, ?_⟩
        · rw [ofSettings_onChain c.name hset hother]
          rfl
        · intro i hi
          obtain rfl := Option.some.inj (Except.ok.inj hi)
          rw [pool_ofSettings]
          exact hnone
      · exact ⟨rfl, by rintro i ⟨⟩⟩

/-- Called by its number a chain leaves the same session as called by its name, in any letter case, exactly
when the line is read as no command or as one that does not ask for the chain. A command that asks for it
is refused when it is called by its number. This holds for every line, by the option and by the
environment, on every node. -/
theorem chain_by_id_eq_by_name_iff {n : Network} {name : String} (hn : n ∈ Network.known)
    (hname : Text.lowercase name = n.key) (env : Environment) (node : Node)
    {line byId byName : List String} {idEnv nameEnv : Environment}
    (hid : Calls env line n.idText idEnv byId) (hcalled : Calls env line name nameEnv byName) :
    (session idEnv byId node = session nameEnv byName node ↔
        ∀ i, read line = .ok (some i) → ¬ i.pool.AsksChain env) ∧
      ∀ i, read line = .ok (some i) → i.pool.AsksChain env → session idEnv byId node =
        ⟨.ok 1, "", reportText i.pool.debug
          (.unsupportedChain n.idText (Network.known.map (·.key))), []⟩ := by
  have hknown : Network.ofName name = .ok n := Network.ofName_eq_ok_iff.mpr ⟨hn, hname⟩
  have hrefused (i : Invocation) (hread : read line = .ok (some i)) (hasks : i.pool.AsksChain env) :
      session idEnv byId node = ⟨.ok 1, "", reportText i.pool.debug
        (.unsupportedChain n.idText (Network.known.map (·.key))), []⟩ := by
    rw [hid.session_of_command hread]
    exact session_of_asksChain hasks node (Network.ofName_idText hn) rfl
  refine ⟨⟨?_, ?_⟩, hrefused⟩
  · intro hsame i hread hasks
    rw [hrefused i hread hasks, hcalled.session_of_command hread] at hsame
    exact session_ne_of_ofName hknown env i node _ _ hsame.symm
  · intro hfree
    by_cases hcommand : ∃ i, read line = .ok (some i)
    · obtain ⟨i, hread⟩ := hcommand
      rw [hid.session_of_command hread, hcalled.session_of_command hread]
      exact session_of_not_asksChain (hfree i hread) node _ _
    · have hnone : ∀ i, read line ≠ .ok (some i) := not_exists.mp hcommand
      rw [hid.session_of_no_command hnone, hcalled.session_of_no_command hnone]

/-- A band whose endpoint the environment gives and whose contract an option gives, with the chain called
by its number in the environment and by its name among the options. -/
theorem chain_by_id_with_endpoint_and_contract :
    let env : Environment := ⟨none, some "http://own.invalid", none⟩
    let node := Node.start ⟨60, [⟨120, .int 5, .int 5⟩], [], none, .list [.int 0, .int 5, .int 0, .int 0],
      .int 1000, [], []⟩
    let id := "0xabababababababababababababababababababababababababababababababab"
    let contract := "0x1212121212121212121212121212121212121212"
    let line := ["band", "--pool-id", id, "--tick-spacing", "60", "--state-view", contract, "--json"]
    let byName := ["band", "--pool-id", id, "--tick-spacing", "60", "--chain", "BaSe", "--state-view",
      contract, "--json"]
    let byNumber : Environment := { env with chain := some "8453" }
    Network.base ∈ Network.known ∧ Text.lowercase "BaSe" = Network.base.key ∧
      Calls env line Network.base.idText byNumber line ∧ Calls env line "BaSe" env byName ∧
      session byNumber line node = session env byName node := by
  intro env node id contract line byName byNumber
  let band : Options.Command := ⟨"band", "Load ticks on both sides of a tick", bandForm⟩
  have hband : band ∈ menu.commands := mem_commands_iff.mpr (.inr rfl)
  have hspacing : SpellsInteger band.form "60" 60 := ⟨Form.mark_of_head (by decide), rfl⟩
  have hjson : band.form.mark "--json" = .ok (.item (flagItem "--json" "Print results as JSON")
    "--json" none) := Form.mark_of_item? rfl (by decide) rfl
  have hothers : ∀ args ∈ [["--pool-id", id], ["--tick-spacing", "60"], ["--state-view", contract],
      ["--json"]], band.form.Apart ["--chain"] args := by
    rw [List.forall_mem_cons, List.forall_mem_cons, List.forall_mem_cons, List.forall_mem_singleton]
    exact ⟨(gives_text hband (by decide +kernel) (by decide)).apart (by decide),
      (gives_integer hband (by decide +kernel) hspacing).apart (by decide),
      (gives_text hband (by decide +kernel) (by decide)).apart (by decide),
      Form.apart_of_mark hjson (by decide) (by decide)⟩
  have hline : Mixes [["--chain", "BaSe"]] [["--pool-id", id], ["--tick-spacing", "60"],
      ["--state-view", contract], ["--json"]] [["--pool-id", id], ["--tick-spacing", "60"],
      ["--chain", "BaSe"], ["--state-view", contract], ["--json"]] :=
    ⟨_, .refl _, .right (.right (.left (.right (.right .nil))))⟩
  obtain ⟨hoption, hnone⟩ := read_of_mixes hband (by decide) hothers hline
  have hread : read line = .ok (some (.band ⟨⟨some id, none, none, none, noHooks, 60, none, none, none,
      some contract, true, false⟩, none, defaultBand, defaultBatch⟩)) :=
    eq_ok_of_toOption (by decide +kernel)
  have hlower : Text.lowercase "BaSe" = Network.base.key := by decide +kernel
  have hknown : Network.base ∈ Network.known := List.mem_cons_of_mem _ List.mem_cons_self
  have hid : Calls env line Network.base.idText byNumber line := .environment hnone
  have hcalled : Calls env line "BaSe" env byName := .option hoption
  refine ⟨hknown, hlower, hid, hcalled, ?_⟩
  apply (chain_by_id_eq_by_name_iff hknown hlower env node hid hcalled).1.mpr
  intro i hi hasks
  obtain rfl := Option.some.inj (Except.ok.inj (hread.symm.trans hi))
  cases hasks with
  | endpoint hendpoint => cases hendpoint
  | contract hcontract => cases hcontract

/-- Called by its number a chain is unknown, where it is known by its name. -/
theorem chain_by_id_is_unknown :
    let env : Environment := ⟨none, none, none⟩
    let node := Node.start ⟨10, [⟨20, .int 5, .int 5⟩], [], none, .list [.int 0, .int 5, .int 0, .int 0],
      .int 1000, [], []⟩
    let id := "0xabababababababababababababababababababababababababababababababab"
    let line := ["scan", "--pool-id", id, "--tick-spacing", "10", "--start-tick", "0", "--steps", "1"]
    let byId := line ++ ["--chain", "8453"]
    let byName := line ++ ["--chain", "base"]
    Network.base ∈ Network.known ∧ Text.lowercase "base" = Network.base.key ∧
      Calls env line Network.base.idText env byId ∧ Calls env line "base" env byName ∧
      (session env byId node).exit = .ok 1 ∧ (session env byName node).exit = .ok 0 ∧
      (session env byId node).stderr =
        "ERROR - Error: Unsupported chain: 8453. Supported: ['ethereum', 'base']\n" ∧
      session env byId node ≠ session env byName node := by
  intro env node id line byId byName
  let scan (chain : Option String) : Invocation := .scan ⟨⟨some id, none, none, none, noHooks, 10, none,
    chain, none, none, false, false⟩, some 0, .exclusive, 1⟩
  have hline : read line = .ok (some (scan none)) := eq_ok_of_toOption (by decide +kernel)
  have hcalls {chain : String} {called : List String}
      (h : (read called).toOption = some (some (scan (some chain)))) : Calls env line chain env called := by
    apply Calls.option
    rw [eq_ok_of_toOption h, hline]
    rfl
  have hrefused : (session env byId node).exit = .ok 1 := eq_ok_of_toOption (by decide +kernel)
  have hdone : (session env byName node).exit = .ok 0 := eq_ok_of_toOption (by decide +kernel)
  refine ⟨List.mem_cons_of_mem _ List.mem_cons_self, by decide +kernel, hcalls (by decide +kernel),
    hcalls (by decide +kernel), hrefused, hdone, by decide +kernel, ?_⟩
  intro hsame
  rw [hsame, hdone] at hrefused
  cases hrefused

end Command

end TickWalk
