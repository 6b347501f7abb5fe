import TickWalk.Command.Session
import TickWalk.Proofs.Options.Order
import TickWalk.Proofs.Pool.Identifier
import Mathlib.Data.List.Perm.Basic

/-!
# Naming a pool by its key or by its identifier

A pool may be named by the options of its key or by the option of its identifier. Whatever other options
are mixed with them, both lines leave the same session: they are refused for the same reason, or run the
same command on the same view of the chain.
-/

namespace TickWalk.Command

open Options

/-- The keys under which the name of a pool and its spacing are kept. -/
def namingKeys : List String :=
  ["--pool-id", "--currency0", "--currency1", "--fee", "--hooks", "--tick-spacing"]

def keyOptions (currency0 currency1 fee spacing : String) (hooks : Option String) :
    List (List String) :=
  [["--currency0", currency0], ["--currency1", currency1], ["--fee", fee],
    ["--tick-spacing", spacing]] ++ (hooks.map fun h => ["--hooks", h]).toList

def idOptions (id spacing : String) : List (List String) :=
  [["--pool-id", id], ["--tick-spacing", spacing]]

def keySettings (currency0 currency1 : String) (fee spacing : Int) (hooks : Option String) :
    Settings :=
  [("--currency0", .text currency0), ("--currency1", .text currency1), ("--fee", .int fee),
    ("--tick-spacing", .int spacing)] ++ (hooks.map fun h => ("--hooks", .text h)).toList

def idSettings (id : String) (spacing : Int) : Settings :=
  [("--pool-id", .text id), ("--tick-spacing", .int spacing)]

/-- A text that the form takes for a value and that is read as the integer. -/
structure SpellsInteger (f : Form) (s : String) (n : Int) : Prop where
  plain : f.mark s = .ok .plain
  reads : (Value.text s).toInteger = .ok n

variable {c : Options.Command} {currency0 currency1 fee spacing id : String} {hooks : Option String}
  {feeValue spacingValue : Int}

/-! ### What the options give -/

lemma mem_commands_iff : c ∈ menu.commands ↔
    c = ⟨"scan", "Walk initialized ticks from a start tick", scanForm⟩ ∨
      c = ⟨"band", "Load ticks on both sides of a tick", bandForm⟩ := by
  unfold menu
  rw [List.mem_cons, List.mem_singleton]

/-- Both commands have an item of this name and kind. -/
def HasItem (name : String) (kind : Kind) : Prop := ∃ i ∈ poolItems, i.names = [name] ∧ i.kind = kind

instance (name : String) (kind : Kind) : Decidable (HasItem name kind) :=
  inferInstanceAs (Decidable (∃ i ∈ poolItems, _))

lemma mark_of_mem_poolItems {i : Item} {name : String} (hc : c ∈ menu.commands)
    (hi : i ∈ poolItems) (htakes : i.takesValue = true) (hname : i.names = [name]) :
    name ≠ "--" ∧ c.form.mark name = .ok (.item i name none) := by
  have hall : ∀ i ∈ poolItems, i.takesValue = true → ∀ name ∈ i.names,
      name ≠ "--" ∧ name ≠ "-" ∧ name.toList.head? = some '-' ∧
        scanForm.item? name = some i ∧ bandForm.item? name = some i := by decide +kernel
  obtain ⟨hseparator, hlong, hdash, hscan, hband⟩ :=
    hall i hi htakes name (hname ▸ List.mem_singleton.mpr rfl)
  rcases mem_commands_iff.mp hc with rfl | rfl
  · exact ⟨hseparator, Form.mark_of_item? hdash hlong hscan⟩
  · exact ⟨hseparator, Form.mark_of_item? hdash hlong hband⟩

lemma key_of_names {i : Item} {name : String} (h : i.names = [name]) : i.key = name := by
  rw [Item.key, h]
  rfl

lemma gives_text {name value : String} (hc : c ∈ menu.commands) (hitem : HasItem name .text)
    (hvalue : value.toList.head? ≠ some '-') : c.form.Gives [name, value] (name, .text value) := by
  obtain ⟨i, hi, hnames, hkind⟩ := hitem
  have htakes : i.takesValue = true := by rw [Item.takesValue, hkind]
  obtain ⟨hname, hmark⟩ := mark_of_mem_poolItems hc hi htakes hnames
  have hdashes : value ≠ "--" := by
    rintro rfl
    exact hvalue rfl
  have hv : Form.valueOf i value = .ok (.text value) := by rw [Form.valueOf, hkind]
  exact .pair hname hdashes hmark (Form.mark_of_head hvalue) htakes (key_of_names hnames) hv

lemma gives_integer {name value : String} {n : Int} (hc : c ∈ menu.commands)
    (hitem : HasItem name .integer) (hvalue : SpellsInteger c.form value n) :
    c.form.Gives [name, value] (name, .int n) := by
  obtain ⟨i, hi, hnames, hkind⟩ := hitem
  have htakes : i.takesValue = true := by rw [Item.takesValue, hkind]
  obtain ⟨hname, hmark⟩ := mark_of_mem_poolItems hc hi htakes hnames
  have hdashes : value ≠ "--" := by
    rintro rfl
    cases hvalue.reads
  have hv : Form.valueOf i value = .ok (.int n) := by
    rw [Form.valueOf, hkind]
    dsimp only
    rw [hvalue.reads]
  exact .pair hname hdashes hmark hvalue.plain htakes (key_of_names hnames) hv

lemma gives_keyOptions (hc : c ∈ menu.commands) (h0 : currency0.toList.head? ≠ some '-')
    (h1 : currency1.toList.head? ≠ some '-') (hfee : SpellsInteger c.form fee feeValue)
    (hspacing : SpellsInteger c.form spacing spacingValue)
    (hhooks : ∀ h ∈ hooks, h.toList.head? ≠ some '-') :
    List.Forall₂ c.form.Gives (keyOptions currency0 currency1 fee spacing hooks)
      (keySettings currency0 currency1 feeValue spacingValue hooks) := by
  refine .cons (gives_text hc (by decide +kernel) h0) <|
    .cons (gives_text hc (by decide +kernel) h1) <|
    .cons (gives_integer hc (by decide +kernel) hfee) <|
    .cons (gives_integer hc (by decide +kernel) hspacing) ?_
  cases hooks with
  | none => exact .nil
  | some h => exact .cons (gives_text hc (by decide +kernel) (hhooks h rfl)) .nil

lemma gives_idOptions (hc : c ∈ menu.commands) (hid : id.toList.head? ≠ some '-')
    (hspacing : SpellsInteger c.form spacing spacingValue) :
    List.Forall₂ c.form.Gives (idOptions id spacing) (idSettings id spacingValue) :=
  .cons (gives_text hc (by decide +kernel) hid) <|
    .cons (gives_integer hc (by decide +kernel) hspacing) .nil

/-! ### Runs on the same view -/

/-- Both arguments come to the same view and settle everything else alike. -/
structure PoolArguments.Alike (env : Environment) (a b : PoolArguments) : Prop where
  view : a.view env = b.view env
  block : a.block = b.block
  spacing : a.spacing = b.spacing
  json : a.json = b.json
  debug : a.debug = b.debug

lemma runScan_of_alike {env : Environment} {p q : PoolArguments} (h : p.Alike env q)
    (start : Option Int) (direction : Direction) (steps : Int) :
    runScan env ⟨p, start, direction, steps⟩ = runScan env ⟨q, start, direction, steps⟩ := by
  unfold runScan printScan ScanArguments.request PoolArguments.blockReference
  dsimp only
  rw [h.view, h.block, h.spacing, h.json]

lemma runBand_of_alike {env : Environment} {p q : PoolArguments} (h : p.Alike env q)
    (current : Option Int) (band batch : Int) :
    runBand env ⟨p, current, band, batch⟩ = runBand env ⟨q, current, band, batch⟩ := by
  unfold runBand printBand BandArguments.request PoolArguments.blockReference
  dsimp only
  rw [h.view, h.block, h.spacing, h.json]

lemma run_ofSettings_of_alike {env : Environment} {s t : Settings} (name : String)
    (h : (PoolArguments.ofSettings s).Alike env (PoolArguments.ofSettings t))
    (hother : ∀ key, key ∉ namingKeys → s.value? key = t.value? key) :
    run env (Invocation.ofSettings name s) = run env (Invocation.ofSettings name t) ∧
      (Invocation.ofSettings name s).pool.debug = (Invocation.ofSettings name t).pool.debug := by
  have htext (key : String) (hkey : key ∉ namingKeys) : s.text? key = t.text? key := by
    rw [Settings.text?, Settings.text?, hother key hkey]
  have hinteger (key : String) (hkey : key ∉ namingKeys) : s.integer? key = t.integer? key := by
    rw [Settings.integer?, Settings.integer?, hother key hkey]
  unfold Invocation.ofSettings
  dsimp only
  split
  · rw [hinteger "--start-tick" (by decide), htext "--direction" (by decide),
      hinteger "--steps" (by decide)]
    exact ⟨runScan_of_alike h _ _ _, h.debug⟩
  · rw [hinteger "--current-tick" (by decide), hinteger "--band" (by decide),
      hinteger "--batch" (by decide)]
    exact ⟨runBand_of_alike h _ _ _, h.debug⟩

/-! ### The pool behind both names -/

namespace PoolArguments

variable {env : Environment} {a b : PoolArguments} {key : PoolKey} {poolId : PoolId}

lemma create_of_spells {s t : String} (hs : poolId.Spells s) (ht : poolId.Spells t)
    (transport : Transport) (contract chain : Value) :
    StateView.create env transport (.text s) contract chain =
      StateView.create env transport (.text t) contract chain := by
  unfold StateView.create
  rw [PoolId.ofValue_of_spells hs, PoolId.ofValue_of_spells ht]

lemma given?_of_isEmpty {s : String} (h : s.isEmpty = false) : given? (some s) = some s := by
  unfold given?
  rw [Option.filter_some, h]
  rfl

lemma resolve_of_poolId {s : String} (hid : a.poolId = some s) (hs : poolId.Spells s) :
    a.resolve = .ok s := by
  unfold resolve
  rw [hid, given?_of_isEmpty (PoolId.isEmpty_of_spells hs)]

lemma resolve_of_key {fee : Int} (hid : a.poolId = none) (h0 : a.currency0 = some currency0)
    (h1 : a.currency1 = some currency1) (hfee : a.fee = some fee)
    (hkey : PoolKey.ofValues (.text currency0) (.text currency1) (.int fee) (.int a.spacing)
      (.text a.hooks) = .ok key) (hpool : key.identifier = .ok poolId) :
    a.resolve = .ok poolId.text := by
  obtain ⟨⟨x, hx⟩, ⟨y, hy⟩, -⟩ := PoolKey.exists_address_of_ofSpellings hkey
  have hfull := Address.isEmpty_of_ofText? (Address.ofText?_of_ofValue? hx)
  have hfull' := Address.isEmpty_of_ofText? (Address.ofText?_of_ofValue? hy)
  unfold resolve
  rw [hid, h0, h1, hfee, given?_of_isEmpty hfull, given?_of_isEmpty hfull']
  change (PoolKey.ofValues _ _ _ _ _ >>= fun key => _) = _
  rw [hkey, ok_bind, hpool]
  rfl

lemma view_of_spells {s t : String} (ha : a.resolve = .ok s) (hb : b.resolve = .ok t)
    (hs : poolId.Spells s) (ht : poolId.Spells t) (hchain : a.chain = b.chain)
    (hurl : a.rpcUrl = b.rpcUrl) (hcontract : a.stateView = b.stateView) :
    a.view env = b.view env := by
  unfold view
  rw [ha, hb, hchain, hurl, hcontract]
  cases Network.endpoint env (valueOf b.rpcUrl) (valueOf b.chain) with
  | error e => rfl
  | ok url => exact create_of_spells hs ht _ _ _

end PoolArguments

/-! ### Both lines -/

/-- The line has the options, in any order and anywhere between the others, which keep their order. -/
def Mixes (options others line : List (List String)) : Prop :=
  ∃ named, named.Perm options ∧ Interleaved named others line

lemma value?_eq_field? {given own all : Settings} {key : String}
    (hown : ∀ p ∈ own, p.1 ∉ namingKeys) (hall : Interleaved given own all)
    (hkey : key ∈ namingKeys) : all.value? key = Value.field? given key := by
  have hunset : key ∉ own.map Prod.fst := by
    intro hset
    obtain ⟨p, hp, rfl⟩ := List.mem_map.mp hset
    exact hown p hp hkey
  unfold Settings.value?
  exact Value.field?_eq_left hall hunset

lemma value?_of_mem {given settings own all : Settings} {key : String} {v : Value}
    (hperm : given.Perm settings) (hnames : (settings.map Prod.fst).Nodup)
    (hown : ∀ p ∈ own, p.1 ∉ namingKeys) (hall : Interleaved given own all) (hkey : key ∈ namingKeys)
    (hmem : (key, v) ∈ settings) : all.value? key = some v := by
  rw [value?_eq_field? hown hall hkey]
  exact Value.field?_of_mem ((hperm.map Prod.fst).nodup_iff.mpr hnames) (hperm.mem_iff.mpr hmem)

lemma value?_eq_none {given settings own all : Settings} {key : String}
    (hperm : given.Perm settings) (hown : ∀ p ∈ own, p.1 ∉ namingKeys)
    (hall : Interleaved given own all) (hkey : key ∈ namingKeys)
    (hunset : key ∉ settings.map Prod.fst) : all.value? key = none := by
  rw [value?_eq_field? hown hall hkey]
  exact Value.field?_eq_none ((hperm.map Prod.fst).mem_iff.not.mpr hunset)

lemma text?_of_value? {s : Settings} {key t : String} (h : s.value? key = some (.text t)) :
    s.text? key = some t := by
  rw [Settings.text?, h]

lemma integer?_of_value? {s : Settings} {key : String} {n : Int}
    (h : s.value? key = some (.int n)) : s.integer? key = some n := by
  rw [Settings.integer?, h]

lemma exists_marks_menu {args : List String} {setting : String × Value} (hc : c ∈ menu.commands)
    (h : c.form.Gives args setting) (hreadings : menu.form.readings setting.1 = []) :
    "--" ∉ args ∧ ∃ ms, menu.form.marks args = .ok ms := by
  obtain @⟨i, name, value, v, hname, hvalue, hitem, hplain, -, -, -⟩ := h
  have hsubset : menu.form.names ⊆ c.form.names := by
    rcases mem_commands_iff.mp hc with rfl | rfl <;> decide +kernel
  obtain ⟨m, hm⟩ := Form.exists_mark_of_readings hreadings
  refine ⟨?_, [(name, m), (value, .plain)], ?_⟩
  · rw [List.mem_cons, List.mem_singleton, not_or]
    exact ⟨Ne.symm hname, Ne.symm hvalue⟩
  · rw [Form.marks_cons hname, hm, ok_bind, Form.marks_cons hvalue,
      Form.mark_plain_of_subset hsubset hplain]
    rfl

lemma exists_marks_menu_of_forall₂ {ns : List (List String)} {given : Settings}
    (hc : c ∈ menu.commands) (hns : List.Forall₂ c.form.Gives ns given)
    (hgiven : given.map Prod.fst ⊆ namingKeys) :
    ∀ args ∈ ns, "--" ∉ args ∧ ∃ ms, menu.form.marks args = .ok ms := by
  have hreadings : ∀ name ∈ namingKeys, menu.form.readings name = [] := by decide +kernel
  induction hns with
  | nil => exact List.forall_mem_nil _
  | cons hg _ ih =>
    rw [List.map_cons, List.cons_subset] at hgiven
    exact List.forall_mem_cons.mpr ⟨exists_marks_menu hc hg (hreadings _ hgiven.1), ih hgiven.2⟩

lemma read_command (hc : c ∈ menu.commands) (rest : List String) : read (c.name :: rest) =
    match menu.form.marks rest with
    | .error e => .error (.refused menu.form.program e)
    | .ok _ => (do
      let (settings, left) ← c.form.read rest
      if left.isEmpty then .ok (some (Invocation.ofSettings c.name settings))
      else .error (.refused menu.form.program (.leftOver left))) := by
  have hmenu : menu.commands.find? (·.name == c.name) = some c ∧ c.name ≠ "--" ∧
      c.name.toList.head? ≠ some '-' := by
    rcases mem_commands_iff.mp hc with rfl | rfl
    · exact ⟨rfl, by decide, by decide⟩
    · exact ⟨rfl, by decide, by decide⟩
  obtain ⟨hfind, hname, hdash⟩ := hmenu
  unfold read
  rw [Menu.read_command hfind hname (Form.mark_of_head hdash)]
  cases menu.form.marks rest with
  | error e => rfl
  | ok ms =>
    cases c.form.read rest with
    | error e => rfl
    | ok p =>
      rw [ok_bind, ok_bind]
      dsimp only
      split <;> rfl

lemma session_of_readAlike {given given' : Settings} {rest rest' : List String}
    (env : Environment) (node : Node) (hc : c ∈ menu.commands)
    (hgiven : given.map Prod.fst ⊆ namingKeys) (hgiven' : given'.map Prod.fst ⊆ namingKeys)
    (hmarks : (∃ e, menu.form.marks rest = .error e ∧ menu.form.marks rest' = .error e) ∨
      ∃ ms ms', menu.form.marks rest = .ok ms ∧ menu.form.marks rest' = .ok ms')
    (hread : Form.ReadAlike namingKeys given given' (c.form.read rest) (c.form.read rest'))
    (halike : ∀ own all all' : Settings, (∀ p ∈ own, p.1 ∉ namingKeys) → Interleaved given own all →
      Interleaved given' own all' → (∀ key, key ∉ namingKeys → all.value? key = all'.value? key) →
      (PoolArguments.ofSettings all).Alike env (PoolArguments.ofSettings all')) :
    session env (c.name :: rest) node = session env (c.name :: rest') node := by
  unfold session
  rw [read_command hc, read_command hc]
  obtain ⟨e, hms, hms'⟩ | ⟨ms, ms', hms, hms'⟩ := hmarks
  · rw [hms, hms']
  · rw [hms, hms']
    dsimp only
    generalize c.form.read rest = x at hread
    generalize c.form.read rest' = y at hread
    cases hread with
    | stopped stop => rfl
    | @settled own all all' left hown hall hall' =>
      have hother (key : String) (hkey : key ∉ namingKeys) : all.value? key = all'.value? key := by
        unfold Settings.value?
        rw [Value.field?_eq_right hall fun h => hkey (hgiven h),
          Value.field?_eq_right hall' fun h => hkey (hgiven' h)]
      have halike := halike own all all' hown hall hall' hother
      obtain ⟨hrun, hdebug⟩ := run_ofSettings_of_alike c.name halike hother
      rw [ok_bind, ok_bind]
      dsimp only
      by_cases hleft : left.isEmpty = true
      · rw [if_pos hleft, if_pos hleft]
        dsimp only
        unfold perform
        rw [hrun, hdebug]
      · rw [if_neg hleft, if_neg hleft]

lemma names_keySettings (currency0 currency1 : String) (fee spacing : Int) (hooks : Option String) :
    ((keySettings currency0 currency1 fee spacing hooks).map Prod.fst).Nodup ∧
      (keySettings currency0 currency1 fee spacing hooks).map Prod.fst ⊆ namingKeys := by
  cases hooks with
  | none =>
    change ["--currency0", "--currency1", "--fee", "--tick-spacing"].Nodup ∧
      ["--currency0", "--currency1", "--fee", "--tick-spacing"] ⊆ namingKeys
    decide
  | some h =>
    change ["--currency0", "--currency1", "--fee", "--tick-spacing", "--hooks"].Nodup ∧
      ["--currency0", "--currency1", "--fee", "--tick-spacing", "--hooks"] ⊆ namingKeys
    decide

lemma names_idSettings (id : String) (spacing : Int) :
    ((idSettings id spacing).map Prod.fst).Nodup ∧
      (idSettings id spacing).map Prod.fst ⊆ namingKeys := by
  change ["--pool-id", "--tick-spacing"].Nodup ∧ ["--pool-id", "--tick-spacing"] ⊆ namingKeys
  decide

/-- The settings of a key and those of its identifier come to the same view. -/
lemma alike_of_naming {env : Environment} {key : PoolKey} {poolId : PoolId}
    {given given' own all all' : Settings}
    (hkey : PoolKey.ofValues (.text currency0) (.text currency1) (.int feeValue) (.int spacingValue)
      (.text (hooks.getD noHooks)) = .ok key) (hpool : key.identifier = .ok poolId)
    (hid : poolId.Spells id)
    (hgiven : given.Perm (keySettings currency0 currency1 feeValue spacingValue hooks))
    (hgiven' : given'.Perm (idSettings id spacingValue)) (hown : ∀ p ∈ own, p.1 ∉ namingKeys)
    (hall : Interleaved given own all) (hall' : Interleaved given' own all')
    (hother : ∀ key, key ∉ namingKeys → all.value? key = all'.value? key) :
    (PoolArguments.ofSettings all).Alike env (PoolArguments.ofSettings all') := by
  have hnames := (names_keySettings currency0 currency1 feeValue spacingValue hooks).1
  have hset {name : String} {v : Value} (hname : name ∈ namingKeys)
      (h : (name, v) ∈ keySettings currency0 currency1 feeValue spacingValue hooks) :
      all.value? name = some v := value?_of_mem hgiven hnames hown hall hname h
  have hset' {name : String} {v : Value} (hname : name ∈ namingKeys)
      (h : (name, v) ∈ idSettings id spacingValue) : all'.value? name = some v :=
    value?_of_mem hgiven' (names_idSettings id spacingValue).1 hown hall' hname h
  have htext (name : String) (hname : name ∉ namingKeys) : all.text? name = all'.text? name := by
    rw [Settings.text?, Settings.text?, hother name hname]
  have hspacing : all.integer? "--tick-spacing" = some spacingValue :=
    integer?_of_value? (hset (by decide) (by simp [keySettings]))
  have hspacing' : all'.integer? "--tick-spacing" = some spacingValue :=
    integer?_of_value? (hset' (by decide) (by simp [idSettings]))
  have h0 : all.text? "--currency0" = some currency0 :=
    text?_of_value? (hset (by decide) (by simp [keySettings]))
  have h1 : all.text? "--currency1" = some currency1 :=
    text?_of_value? (hset (by decide) (by simp [keySettings]))
  have hfee : all.integer? "--fee" = some feeValue :=
    integer?_of_value? (hset (by decide) (by simp [keySettings]))
  have hnoId : all.text? "--pool-id" = none := by
    have hunset : "--pool-id" ∉
        (keySettings currency0 currency1 feeValue spacingValue hooks).map Prod.fst := by
      cases hooks <;> simp [keySettings]
    rw [Settings.text?, value?_eq_none hgiven hown hall (by decide) hunset]
  have hhooks : (all.text? "--hooks").getD noHooks = hooks.getD noHooks := by
    cases hooks with
    | none =>
      rw [Settings.text?, value?_eq_none hgiven hown hall (by decide) (by simp [keySettings])]
    | some h => rw [text?_of_value? (t := h) (hset (by decide) (by simp [keySettings]))]
  have hpoolId : all'.text? "--pool-id" = some id :=
    text?_of_value? (hset' (by decide) (by simp [idSettings]))
  have hkey' : PoolKey.ofValues (.text currency0) (.text currency1) (.int feeValue)
      (.int (PoolArguments.ofSettings all).spacing) (.text (PoolArguments.ofSettings all).hooks) =
        .ok key := by
    unfold PoolArguments.ofSettings
    dsimp only
    rwa [hspacing, hhooks]
  constructor
  · exact PoolArguments.view_of_spells (PoolArguments.resolve_of_key hnoId h0 h1 hfee hkey' hpool)
      (PoolArguments.resolve_of_poolId hpoolId hid) (PoolId.spells_text poolId) hid
      (htext "--chain" (by decide)) (htext "--rpc-url" (by decide))
      (htext "--state-view" (by decide))
  · unfold PoolArguments.ofSettings Settings.integer?
    dsimp only
    rw [hother "--block" (by decide)]
  · unfold PoolArguments.ofSettings
    dsimp only
    rw [hspacing, hspacing']
  · unfold PoolArguments.ofSettings Settings.isSet
    dsimp only
    rw [hother "--json" (by decide)]
  · unfold PoolArguments.ofSettings Settings.isSet
    dsimp only
    rw [hother "--debug" (by decide)]

/-- Naming a pool by its key and naming it by a text that spells the identifier of that key leave the
same session, on every node: the same code or failure, the same output and journal, and the same chain
reads. -/
theorem session_by_key_eq_by_id {key : PoolKey} (env : Environment) (node : Node)
    (hc : c ∈ menu.commands) (hfee : SpellsInteger c.form fee feeValue)
    (hspacing : SpellsInteger c.form spacing spacingValue)
    (hkey : PoolKey.ofValues (.text currency0) (.text currency1) (.int feeValue) (.int spacingValue)
      (.text (hooks.getD noHooks)) = .ok key) :
    ∃ poolId, key.identifier = .ok poolId ∧ ∀ id, poolId.Spells id → ∀ others byKey byId,
      (∀ args ∈ others, c.form.Apart namingKeys args) →
      Mixes (keyOptions currency0 currency1 fee spacing hooks) others byKey →
      Mixes (idOptions id spacing) others byId →
      session env (c.name :: byKey.flatten) node = session env (c.name :: byId.flatten) node := by
  obtain ⟨poolId, hpool⟩ := PoolKey.exists_identifier hkey
  refine ⟨poolId, hpool, ?_⟩
  rintro id hid others byKey byId hothers ⟨named, hnamed, hline⟩ ⟨named', hnamed', hline'⟩
  obtain ⟨⟨a0, h0⟩, ⟨a1, h1⟩, ⟨a2, h2⟩⟩ := PoolKey.exists_address_of_ofSpellings hkey
  have hhooks : ∀ h ∈ hooks, h.toList.head? ≠ some '-' := by
    rintro h hh
    rw [Option.mem_def] at hh
    rw [hh] at h2
    exact Address.head_ne_dash (Address.ofText?_of_ofValue? h2)
  obtain ⟨given, hns, hgiven⟩ := List.perm_comp_forall₂ hnamed
    (gives_keyOptions hc (Address.head_ne_dash (Address.ofText?_of_ofValue? h0))
      (Address.head_ne_dash (Address.ofText?_of_ofValue? h1)) hfee hspacing hhooks)
  obtain ⟨given', hns', hgiven'⟩ := List.perm_comp_forall₂ hnamed'
    (gives_idOptions hc (PoolId.head_ne_dash_of_spells hid) hspacing)
  have hnames := names_keySettings currency0 currency1 feeValue spacingValue hooks
  have hsubset : given.map Prod.fst ⊆ namingKeys :=
    List.Subset.trans (hgiven.map Prod.fst).subset hnames.2
  have hsubset' : given'.map Prod.fst ⊆ namingKeys :=
    List.Subset.trans (hgiven'.map Prod.fst).subset (names_idSettings id spacingValue).2
  have hrequired : ∀ i ∈ c.form.items, i.required = true → i.key ∈ namingKeys →
      i.key ∈ given.map Prod.fst ∧ i.key ∈ given'.map Prod.fst := by
    intro i hi hrequire _
    have hspacing : ∀ i ∈ c.form.items, i.required = true → i.key = "--tick-spacing" := by
      rcases mem_commands_iff.mp hc with rfl | rfl <;> decide +kernel
    rw [hspacing i hi hrequire, (hgiven.map Prod.fst).mem_iff, (hgiven'.map Prod.fst).mem_iff]
    exact ⟨by simp [keySettings], by simp [idSettings]⟩
  have hmarks := Form.marks_alike_of_interleaved hline hline'
    (exists_marks_menu_of_forall₂ hc hns hsubset) (exists_marks_menu_of_forall₂ hc hns' hsubset')
    fun args h => (hothers args h).separator
  exact session_of_readAlike env node hc hsubset hsubset' hmarks
    (Form.readAlike hline hline' hns hns' hothers hsubset hsubset' hrequired)
    fun own all all' hown hall hall' hother =>
      alike_of_naming hkey hpool hid hgiven hgiven' hown hall hall' hother

/-- A key without a fee and without hooks, its options around and behind another one. -/
theorem session_by_key_of_zero_fee :
    let env : Environment := ⟨none, none, none⟩
    let node := Node.start ⟨10, [], [], none, .list [.int 0, .int 5, .int 0, .int 0], .int 1000, [], []⟩
    let currency1 := "0xA0b86991c6218b36c1d19D4a2e9Eb0cE3606eB48"
    ∃ key poolId, PoolKey.ofValues (.text noHooks) (.text currency1) (.int 0) (.int 10)
        (.text noHooks) = .ok key ∧ key.identifier = .ok poolId ∧
      session env ["scan", "--fee", "0", "--json", "--currency0", noHooks, "--currency1", currency1,
          "--tick-spacing", "10"] node =
        session env ["scan", "--json", "--tick-spacing", "10", "--pool-id", poolId.text] node := by
  intro env node currency1
  have hvalid : (PoolKey.ofValues (.text noHooks) (.text currency1) (.int 0) (.int 10)
      (.text noHooks)).isOk = true := by decide +kernel
  cases hkey : PoolKey.ofValues (.text noHooks) (.text currency1) (.int 0) (.int 10)
      (.text noHooks) with
  | error e =>
    rw [hkey] at hvalid
    cases hvalid
  | ok key =>
    have hinteger {s : String} {n : Int} (hdash : s.toList.head? ≠ some '-')
        (hreads : (Value.text s).toInteger = .ok n) : SpellsInteger scanForm s n :=
      ⟨Form.mark_of_head hdash, hreads⟩
    have hnoHooks : PoolKey.ofValues (.text noHooks) (.text currency1) (.int 0) (.int 10)
        (.text ((none : Option String).getD noHooks)) = .ok key := hkey
    obtain ⟨poolId, hpool, hsame⟩ := session_by_key_eq_by_id env node
      (mem_commands_iff.mpr (.inl rfl)) (hinteger (s := "0") (by decide) rfl)
      (hinteger (s := "10") (by decide) rfl) hnoHooks
    have hmark : scanForm.mark "--json" = .ok (.item (flagItem "--json" "Print results as JSON")
        "--json" none) := Form.mark_of_item? rfl (by decide) rfl
    have hjson : Form.Apart scanForm namingKeys ["--json"] := by
      refine ⟨⟨_, _, rfl, ?_⟩, by decide, ?_⟩
      · rw [hmark]
        rintro ⟨⟩
      · rw [List.forall_mem_singleton]
        rintro i name value h
        obtain ⟨rfl, -⟩ := Mark.item.inj (Except.ok.inj (hmark.symm.trans h))
        decide
    refine ⟨key, poolId, rfl, hpool, hsame poolId.text (PoolId.spells_text poolId) [["--json"]]
      [["--fee", "0"], ["--json"], ["--currency0", noHooks], ["--currency1", currency1],
        ["--tick-spacing", "10"]]
      [["--json"], ["--tick-spacing", "10"], ["--pool-id", poolId.text]]
      (List.forall_mem_singleton.mpr hjson)
      ⟨_, ?_, .left (.right (.left (.left (.left .nil))))⟩
      ⟨_, ?_, .right (.left (.left .nil))⟩⟩
    · exact (List.Perm.swap _ _ _).trans (.cons _ (.swap _ _ _))
    · exact List.Perm.swap _ _ _

end TickWalk.Command
