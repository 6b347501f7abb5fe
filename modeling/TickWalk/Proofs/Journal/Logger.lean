import TickWalk.Journal.Logger
import Mathlib.Tactic.Lemma

/-!
# Loggers that are set up again

The level of a logger is that of its latest setup. Its handler is that of the first one, with the level
of the first one: a later setup finds a handler and leaves it alone. Lines are therefore never written
twice, but a level that is set below the first one has no effect.
-/

namespace TickWalk.Journal

variable {r : Registry} {name : String} {console : Outlet} {s first : Setup} {rest : List Setup}
  {l : Line}

/-! ### Names -/

lemma length_lt_of_mem_above {cs : List Char} : ∀ n ∈ above cs, n.length < cs.length := by
  fun_induction above cs with
  | case1 c rest ih =>
    rw [List.forall_mem_cons]
    constructor
    · rw [String.length_ofList, List.length_reverse, List.length_cons, List.length_cons]
      exact Nat.lt_succ_self _
    · intro n hn
      exact Nat.lt_trans (ih n hn) (Nat.lt_trans (Nat.lt_succ_self _) (Nat.lt_succ_self _))
  | case2 c rest hmark ih =>
    intro n hn
    exact Nat.lt_trans (ih n hn) (Nat.lt_succ_self _)
  | case3 => exact List.forall_mem_nil _

lemma exists_lineage (name : String) :
    ∃ rest, lineage name = loggerName name :: rest ∧ loggerName name ∉ rest := by
  unfold lineage
  dsimp only
  split
  · rename_i hroot
    exact ⟨[], by rw [hroot], List.not_mem_nil⟩
  · rename_i hroot
    refine ⟨_, List.cons_append, fun hmem => ?_⟩
    rcases List.mem_append.mp hmem with habove | hlast
    · have hlt := length_lt_of_mem_above _ (List.mem_filter.mp habove).1
      rw [List.length_reverse, String.length_toList] at hlt
      exact Nat.lt_irrefl _ hlt
    · exact hroot (List.mem_singleton.mp hlast)

/-- The handler that a setup adds for its console. -/
def Setup.handler (s : Setup) (console : Outlet) : Handler :=
  ⟨.console, console, s.level, s.detailed⟩

/-- A setup of the logger that has its lines written to a console and to no file. -/
structure Setup.ForConsole (name : String) (s : Setup) : Prop where
  name_eq : s.name = name
  console : s.console.isSome = true
  file : s.file = none

namespace Registry

/-! ### Loggers by name -/

lemma name_logger (r : Registry) (name : String) : (r.logger name).name = name := by
  unfold logger
  cases hfind : r.loggers.find? (·.name == name) with
  | none => rfl
  | some found =>
    have hname := List.find?_some hfind
    exact beq_iff_eq.mp hname

lemma logger_put_self (r : Registry) (new : Logger) : (r.put new).logger new.name = new := by
  have hhead : (new.name == new.name) = true := beq_self_eq_true _
  simp only [logger, put, List.find?_cons, hhead, Option.getD_some]

lemma logger_put_of_ne {new : Logger} (h : name ≠ new.name) :
    (r.put new).logger name = r.logger name := by
  have hhead : (new.name == name) = false := beq_eq_false_iff_ne.mpr h.symm
  have hothers (found : Logger) :
      decide ((found.name != new.name) = true ∧ (found.name == name) = true) =
        (found.name == name) := by
    rw [Bool.eq_iff_iff, decide_eq_true_eq, and_iff_right_iff_imp, beq_iff_eq, bne_iff_ne]
    rintro rfl
    exact h
  simp only [logger, put, List.find?_cons, hhead, List.find?_filter, hothers]

/-! ### Setups -/

lemma setUp_of_handlers_eq_nil (hconsole : s.console = some console)
    (hfile : s.file = none) (hnone : (r.logger (loggerName s.name)).handlers = []) :
    (r.setUp s).1 = r.put ⟨loggerName s.name, s.level, [s.handler console]⟩ := by
  unfold setUp
  dsimp only
  rw [hnone, hconsole, hfile, name_logger]
  rfl

lemma setUp_of_handlers_ne_nil (h : (r.logger (loggerName s.name)).handlers ≠ []) :
    (r.setUp s).1 = r.put ⟨loggerName s.name, s.level, (r.logger (loggerName s.name)).handlers⟩ := by
  have hsome : (!(r.logger (loggerName s.name)).handlers.isEmpty) = true := by
    rw [Bool.not_eq_true', List.isEmpty_eq_false_iff]
    exact h
  unfold setUp
  dsimp only
  rw [if_pos hsome, name_logger]

/-- The registry after setups one after the other. -/
def configure (r : Registry) (setups : List Setup) : Registry :=
  setups.foldl (fun r s => (r.setUp s).1) r

def latestLevel (first : Setup) (rest : List Setup) : Level :=
  ((first :: rest).getLast (List.cons_ne_nil first rest)).level

lemma logger_configure_of_handlers {handlers : List Handler} (hne : handlers ≠ [])
    (hrest : ∀ s ∈ rest, s.name = name)
    (h : r.logger (loggerName name) = ⟨loggerName name, first.level, handlers⟩) :
    (r.configure rest).logger (loggerName name) =
      ⟨loggerName name, latestLevel first rest, handlers⟩ := by
  induction rest generalizing r first with
  | nil => exact h
  | cons next rest ih =>
    obtain ⟨hnext, hrest⟩ := List.forall_mem_cons.mp hrest
    have hhandlers : (r.logger (loggerName next.name)).handlers = handlers := by rw [hnext, h]
    have hstep : (r.setUp next).1 = r.put ⟨loggerName name, next.level, handlers⟩ := by
      rw [setUp_of_handlers_ne_nil (by rw [hhandlers]; exact hne), hhandlers, hnext]
    have hlogger : (r.setUp next).1.logger (loggerName name) =
        ⟨loggerName name, next.level, handlers⟩ := by
      rw [hstep]
      exact logger_put_self _ _
    exact ih hrest hlogger

/-- What setups make of a logger without handlers: its handler comes from the first of them, its level
from the last. -/
theorem logger_configure (hfor : ∀ s ∈ first :: rest, s.ForConsole name)
    (hconsole : first.console = some console) (hnone : (r.logger (loggerName name)).handlers = []) :
    (r.configure (first :: rest)).logger (loggerName name) =
      ⟨loggerName name, latestLevel first rest, [first.handler console]⟩ := by
  have ⟨hfirst, hrest⟩ := List.forall_mem_cons.mp hfor
  have hstep : (r.setUp first).1 =
      r.put ⟨loggerName name, first.level, [first.handler console]⟩ := by
    rw [setUp_of_handlers_eq_nil hconsole hfirst.file (by rw [hfirst.name_eq]; exact hnone),
      hfirst.name_eq]
  have hlogger : (r.setUp first).1.logger (loggerName name) =
      ⟨loggerName name, first.level, [first.handler console]⟩ := by
    rw [hstep]
    exact logger_put_self _ _
  have hnames : ∀ s ∈ rest, s.name = name := fun s hs => (hrest s hs).name_eq
  have hconfigure : r.configure (first :: rest) = (r.setUp first).1.configure rest := rfl
  rw [hconfigure]
  exact logger_configure_of_handlers (List.cons_ne_nil _ _) hnames hlogger

lemma logger_setUp_of_ne (hfor : s.ForConsole name) {other : String} (h : other ≠ loggerName name) :
    (r.setUp s).1.logger other = r.logger other := by
  obtain ⟨hname, hconsole, hfile⟩ := hfor
  obtain ⟨console, hconsole⟩ := Option.isSome_iff_exists.mp hconsole
  obtain ⟨new, hnew, hput⟩ : ∃ new : Logger,
      new.name = loggerName name ∧ (r.setUp s).1 = r.put new := by
    by_cases hnone : (r.logger (loggerName s.name)).handlers = []
    · exact ⟨_, congrArg loggerName hname, setUp_of_handlers_eq_nil hconsole hfile hnone⟩
    · exact ⟨_, congrArg loggerName hname, setUp_of_handlers_ne_nil hnone⟩
  rw [hput]
  exact logger_put_of_ne (hnew ▸ h)

lemma logger_configure_of_ne {setups : List Setup} (hfor : ∀ s ∈ setups, s.ForConsole name)
    {other : String} (h : other ≠ loggerName name) : (r.configure setups).logger other = r.logger other := by
  induction setups generalizing r with
  | nil => rfl
  | cons s rest ih =>
    obtain ⟨hs, hrest⟩ := List.forall_mem_cons.mp hfor
    exact (ih hrest).trans (logger_setUp_of_ne hs h)

/-! ### Lines -/

/-- No logger of the lineage has a handler yet. -/
def Silent (r : Registry) (name : String) : Prop := ∀ n ∈ lineage name, (r.logger n).handlers = []

/-- The lines of the logger from the level on are written to the console, each of them once, and no
others are written. -/
def WritesFrom (r : Registry) (name : String) (console : Outlet) (level : Level) : Prop :=
  ∀ l : Line, l.source = name → (r.write l).map (·.1) = if level ≤ l.level then [console] else []

lemma handlers_configure (hsilent : r.Silent name) (hfor : ∀ s ∈ first :: rest, s.ForConsole name)
    (hconsole : first.console = some console) :
    ((lineage name).flatMap fun n => ((r.configure (first :: rest)).logger n).handlers) =
      [first.handler console] := by
  obtain ⟨names, hlineage, hnot⟩ := exists_lineage name
  unfold Silent at hsilent
  rw [hlineage, List.forall_mem_cons] at hsilent
  have hothers : ∀ n ∈ names, ((r.configure (first :: rest)).logger n).handlers = [] := by
    intro n hn
    rw [logger_configure_of_ne hfor (ne_of_mem_of_not_mem hn hnot)]
    exact hsilent.2 n hn
  rw [hlineage, List.flatMap_cons, logger_configure hfor hconsole hsilent.1,
    List.flatMap_eq_nil_iff.mpr hothers, List.append_nil]

/-- The level that is set last counts, unless it leaves the matter to the loggers above. -/
lemma threshold_configure (hsilent : r.Silent name) (hfor : ∀ s ∈ first :: rest, s.ForConsole name)
    (hconsole : first.console = some console) (hlevel : latestLevel first rest ≠ 0) :
    (r.configure (first :: rest)).threshold name = latestLevel first rest := by
  obtain ⟨names, hlineage, -⟩ := exists_lineage name
  have hnone : (r.logger (loggerName name)).handlers = [] :=
    hsilent _ (hlineage ▸ List.mem_cons_self)
  have hset : (latestLevel first rest != 0) = true := bne_iff_ne.mpr hlevel
  simp only [threshold, hlineage, List.map_cons, logger_configure hfor hconsole hnone, List.find?_cons,
    hset, Option.getD_some]

lemma write_configure (hsilent : r.Silent name) (hfor : ∀ s ∈ first :: rest, s.ForConsole name)
    (hconsole : first.console = some console) (hl : l.source = name) :
    (r.configure (first :: rest)).write l =
      if 0 < l.level ∧ (r.configure (first :: rest)).threshold name ≤ l.level ∧ first.level ≤ l.level then
        [(console, (first.handler console).text l)]
      else [] := by
  have hlevel : (first.handler console).level = first.level := rfl
  unfold write
  dsimp only
  rw [hl, handlers_configure hsilent hfor hconsole, List.isEmpty_cons, if_neg Bool.false_ne_true,
    List.filter_cons, List.filter_nil]
  simp only [Bool.or_eq_true, decide_eq_true_eq]
  by_cases hlow : l.level ≤ 0 ∨ l.level < (r.configure (first :: rest)).threshold name
  · have hnot : ¬ (0 < l.level ∧ (r.configure (first :: rest)).threshold name ≤ l.level ∧
        first.level ≤ l.level) := by
      rintro ⟨hpos, hthreshold, -⟩
      exact hlow.elim (Int.not_le.mpr hpos) (Int.not_lt.mpr hthreshold)
    rw [if_pos hlow, if_neg hnot]
  · obtain ⟨hpos, hthreshold⟩ := not_or.mp hlow
    rw [Int.not_le] at hpos
    rw [Int.not_lt] at hthreshold
    rw [if_neg hlow, hlevel]
    by_cases hpass : first.level ≤ l.level
    · rw [if_pos hpass, if_pos ⟨hpos, hthreshold, hpass⟩]
      rfl
    · rw [if_neg hpass, if_neg fun h => hpass h.2.2]
      rfl

/-- However often a logger is set up for the console, each of its lines is written at most once: if it
passes the level of the logger and that of the first setup. Exactly when the latest level is positive and
not below the first one, these are the lines from the latest level on. -/
theorem latest_level_takes_effect_iff (hsilent : r.Silent name)
    (hfor : ∀ s ∈ first :: rest, s.ForConsole name) (hconsole : first.console = some console) :
    (∀ l : Line, l.source = name →
      (r.configure (first :: rest)).write l =
        if 0 < l.level ∧ (r.configure (first :: rest)).threshold name ≤ l.level ∧
            first.level ≤ l.level then
          [(console, (first.handler console).text l)]
        else []) ∧
      (latestLevel first rest ≠ 0 →
        (r.configure (first :: rest)).threshold name = latestLevel first rest) ∧
      ((r.configure (first :: rest)).WritesFrom name console (latestLevel first rest) ↔
        0 < latestLevel first rest ∧ first.level ≤ latestLevel first rest) := by
  refine ⟨fun l => write_configure hsilent hfor hconsole, threshold_configure hsilent hfor hconsole,
    ?_, ?_⟩
  · intro hwrites
    -- The line of the latest level itself has to pass.
    have hline := hwrites ⟨latestLevel first rest, name, ""⟩ rfl
    rw [write_configure hsilent hfor hconsole rfl, if_pos (Int.le_refl _)] at hline
    split at hline
    · rename_i hpass
      exact ⟨hpass.1, hpass.2.2⟩
    · cases hline
  · rintro ⟨hpos, hle⟩ l hl
    have hthreshold := threshold_configure hsilent hfor hconsole (Int.ne_of_gt hpos)
    rw [write_configure hsilent hfor hconsole hl, hthreshold]
    by_cases hlevel : latestLevel first rest ≤ l.level
    · rw [if_pos hlevel,
        if_pos ⟨Int.lt_of_lt_of_le hpos hlevel, hlevel, Int.le_trans hle hlevel⟩]
      rfl
    · rw [if_neg hlevel, if_neg fun h => hlevel h.2.1]
      rfl

/-- A program that is started without more detail after one with it. -/
theorem latest_level_takes_effect_when_raised :
    let first := commandSetup true none
    let r := empty.configure [first, commandSetup false none]
    empty.Silent "ticklens" ∧ r.WritesFrom "ticklens" .stderr Level.info ∧
      r.write ⟨Level.debug, "ticklens", "read"⟩ = [] ∧
      r.write ⟨Level.info, "ticklens", "done"⟩ = [(.stderr, "ticklens - INFO - done\n")] := by
  intro first r
  have hsilent : empty.Silent "ticklens" := fun _ _ => rfl
  have hfor : ∀ s ∈ [first, commandSetup false none], s.ForConsole "ticklens" := by
    rw [List.forall_mem_cons, List.forall_mem_singleton]
    exact ⟨⟨rfl, rfl, rfl⟩, ⟨rfl, rfl, rfl⟩⟩
  obtain ⟨-, -, hiff⟩ := latest_level_takes_effect_iff hsilent hfor rfl
  exact ⟨hsilent, hiff.mpr ⟨by decide, by decide⟩, by decide, by decide⟩

/-- Started with more detail after a start without, it writes no more than before. -/
theorem lowered_level_has_no_effect :
    let first := commandSetup false none
    let r := empty.configure [first, commandSetup true none]
    latestLevel first [commandSetup true none] = Level.debug ∧
      r.write ⟨Level.debug, "ticklens", "read"⟩ = [] ∧
      ¬ r.WritesFrom "ticklens" .stderr Level.debug := by
  intro first r
  have hdropped : r.write ⟨Level.debug, "ticklens", "read"⟩ = [] := by decide
  refine ⟨rfl, hdropped, fun hwrites => ?_⟩
  have hline := hwrites ⟨Level.debug, "ticklens", "read"⟩ rfl
  rw [hdropped] at hline
  cases hline

end Registry

end TickWalk.Journal
