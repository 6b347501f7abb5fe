import TickWalk.Options.Read
import TickWalk.Proofs.Action
import Mathlib.Tactic.Lemma

/-!
# Reading one row of arguments after another

Arguments are told apart one by one, and an option takes its value from what stands right behind it. A
row of arguments can therefore be read on its own when an option follows, and what it sets are the keys of
its own items.
-/

namespace TickWalk

namespace Options

namespace Form

variable {f : Form} {args more : List String} {arg : String} {ms own : List (String × Mark)}

/-! ### Telling arguments apart -/

lemma marks_cons (harg : arg ≠ "--") (more : List String) : f.marks (arg :: more) = (do
    let m ← f.mark arg
    let ms ← f.marks more
    .ok ((arg, m) :: ms)) := marks.eq_3 f arg more harg

lemma marks_append (hargs : "--" ∉ args) (more : List String) : f.marks (args ++ more) = (do
    let here ← f.marks args
    let there ← f.marks more
    .ok (here ++ there)) := by
  induction args with
  | nil =>
    rw [List.nil_append, marks, ok_bind]
    cases f.marks more <;> rfl
  | cons arg args ih =>
    rw [List.mem_cons, not_or] at hargs
    have harg : arg ≠ "--" := Ne.symm hargs.1
    rw [List.cons_append, marks_cons harg, marks_cons harg, ih hargs.2]
    cases f.mark arg with
    | error e => rfl
    | ok m =>
      cases f.marks args with
      | error e => rfl
      | ok here => cases f.marks more <;> rfl

lemma map_fst_of_marks (h : f.marks args = .ok ms) : ms.map Prod.fst = args := by
  induction args using marks.induct generalizing ms with
  | case1 =>
    obtain rfl := Except.ok.inj h
    rfl
  | case2 rest =>
    obtain rfl := Except.ok.inj h
    rw [List.map_cons, List.map_map]
    exact congrArg ("--" :: ·) (List.map_id rest)
  | case3 arg rest harg ih =>
    rw [marks_cons harg] at h
    obtain ⟨m, -, h⟩ := exists_of_bind_ok h
    obtain ⟨rest', hrest, h⟩ := exists_of_bind_ok h
    obtain rfl := Except.ok.inj h
    rw [List.map_cons, ih hrest]

lemma mark_of_mem_marks (hargs : "--" ∉ args) (h : f.marks args = .ok ms) :
    ∀ p ∈ ms, p.1 ∈ args ∧ f.mark p.1 = .ok p.2 := by
  induction args generalizing ms with
  | nil =>
    obtain rfl := Except.ok.inj h
    exact List.forall_mem_nil _
  | cons arg args ih =>
    rw [List.mem_cons, not_or] at hargs
    rw [marks_cons (Ne.symm hargs.1)] at h
    obtain ⟨m, hm, h⟩ := exists_of_bind_ok h
    obtain ⟨ms, hms, h⟩ := exists_of_bind_ok h
    obtain rfl := Except.ok.inj h
    rw [List.forall_mem_cons]
    refine ⟨⟨List.mem_cons_self, hm⟩, ?_⟩
    intro p hp
    obtain ⟨hmem, hmark⟩ := ih hargs.2 hms p hp
    exact ⟨List.mem_cons_of_mem arg hmem, hmark⟩

lemma mark_of_item? {i : Item} (hdash : arg.toList.head? = some '-') (hlong : arg ≠ "-")
    (h : f.item? arg = some i) : f.mark arg = .ok (.item i arg none) := by
  have hoption : ¬ (decide (arg.toList.head? ≠ some '-') || decide (arg = "-")) = true := by
    rw [Bool.or_eq_true, decide_eq_true_eq, decide_eq_true_eq, not_or]
    exact ⟨fun hne => hne hdash, hlong⟩
  have hnamed : f.named? arg = some (.item i arg none) := by
    rw [named?, h]
  rw [mark, if_neg hoption, hnamed]

lemma mark_of_head (hdash : arg.toList.head? ≠ some '-') : f.mark arg = .ok .plain := by
  have hplain : (decide (arg.toList.head? ≠ some '-') || decide (arg = "-")) = true := by
    rw [decide_eq_true hdash, Bool.true_or]
  rw [mark, if_pos hplain]

lemma exists_mark_of_readings (h : f.readings arg = []) : ∃ m, f.mark arg = .ok m := by
  unfold mark
  split
  · exact ⟨_, rfl⟩
  · split
    · exact ⟨_, rfl⟩
    · rw [h]
      exact ⟨_, rfl⟩

lemma named?_ne_plain (f : Form) (arg : String) : f.named? arg ≠ some .plain := by
  unfold named?
  split
  · rintro ⟨⟩
  · split
    · rename_i name value _
      cases f.item? name <;> rintro ⟨⟩
    · rintro ⟨⟩

lemma mark_plain_of_subset {g : Form} (hnames : g.names ⊆ f.names) (h : f.mark arg = .ok .plain) :
    g.mark arg = .ok .plain := by
  have hitem {name : String} (hf : f.item? name = none) : g.item? name = none :=
    List.lookup_eq_none_iff.mpr fun p hp => List.lookup_eq_none_iff.mp hf p (hnames hp)
  have hnamed (hf : f.named? arg = none) : g.named? arg = none := by
    unfold named? at hf ⊢
    split at hf
    · cases hf
    · rename_i hnone
      rw [hitem hnone]
      dsimp only
      split at hf
      · rw [Option.map_eq_none_iff] at hf
        rw [hitem hf]
        rfl
      · rfl
  have hreadings (hf : f.readings arg = []) : g.readings arg = [] := by
    unfold readings at hf ⊢
    split at hf
    · rename_i hlong
      rw [if_pos hlong]
      exact List.filterMap_eq_nil_iff.mpr fun p hp => List.filterMap_eq_nil_iff.mp hf p (hnames hp)
    · rename_i hshort
      rw [if_neg hshort]
      exact List.filterMap_eq_nil_iff.mpr fun p hp => List.filterMap_eq_nil_iff.mp hf p (hnames hp)
  unfold mark at h ⊢
  split at h
  · rename_i hplain
    rw [if_pos hplain]
  · rename_i hoption
    rw [if_neg hoption]
    cases hf : f.named? arg with
    | some m =>
      rw [hf] at h
      obtain rfl := Except.ok.inj h
      exact absurd hf (named?_ne_plain f arg)
    | none =>
      rw [hf] at h
      rw [hnamed hf]
      dsimp only at h ⊢
      split at h
      · cases h
      · cases h
      · rename_i hnil
        rw [hreadings hnil]
        exact h

/-! ### Taking values -/

/-- The first argument, if there is one, is not a plain one. -/
def OptionFirst (ms : List (String × Mark)) : Prop := ∀ v more, ms ≠ (v, .plain) :: more

/-- What two rows of arguments give when one is read after the other. -/
def joined (x y : Except Stop (Settings × List String)) : Except Stop (Settings × List String) := do
  let (s, left) ← x
  let (s', left') ← y
  .ok (s ++ s', left ++ left')

lemma joined_assoc (x y z : Except Stop (Settings × List String)) :
    joined (joined x y) z = joined x (joined y z) := by
  cases x with
  | error e => rfl
  | ok p =>
    cases y with
    | error e => rfl
    | ok q =>
      cases z with
      | error e => rfl
      | ok r =>
        change Except.ok (p.1 ++ q.1 ++ r.1, p.2 ++ q.2 ++ r.2) =
          Except.ok (p.1 ++ (q.1 ++ r.1), p.2 ++ (q.2 ++ r.2))
        rw [List.append_assoc, List.append_assoc]

lemma exists_of_joined_ok {x y : Except Stop (Settings × List String)} {s : Settings}
    {left : List String} (h : joined x y = .ok (s, left)) : ∃ s₁ left₁ s₂ left₂,
      x = .ok (s₁, left₁) ∧ y = .ok (s₂, left₂) ∧ s = s₁ ++ s₂ ∧ left = left₁ ++ left₂ := by
  cases x with
  | error e => cases h
  | ok p =>
    cases y with
    | error e => cases h
    | ok q =>
      obtain ⟨rfl, rfl⟩ := Prod.mk.inj (Except.ok.inj h)
      exact ⟨_, _, _, _, rfl, rfl, rfl, rfl⟩

def settingsOnly (x : Except Stop Settings) : Except Stop (Settings × List String) := x.map (·, [])

lemma fill_attached {i : Item} (htakes : i.takesValue = true) (arg name v : String)
    (rest : List (String × Mark)) : f.fill ((arg, .item i name (some v)) :: rest) =
      joined (settingsOnly (f.filled i v)) (f.fill rest) := by
  rw [fill.eq_2, if_pos htakes]
  cases f.filled i v <;> rfl

lemma fill_following {i : Item} (htakes : i.takesValue = true) (arg name v : String)
    (rest : List (String × Mark)) : f.fill ((arg, .item i name none) :: (v, .plain) :: rest) =
      joined (settingsOnly (f.filled i v)) (f.fill rest) := by
  rw [fill.eq_3, if_pos htakes]
  cases f.filled i v <;> rfl

lemma fill_alone {i : Item} (htakes : i.takesValue = true) (arg name : String)
    {rest : List (String × Mark)} (hrest : OptionFirst rest) :
    f.fill ((arg, .item i name none) :: rest) = .error (.refused f.program (.noValue i.title)) := by
  rw [fill.eq_4 f arg i name rest hrest, if_pos htakes]

lemma fill_bare {i : Item} (htakes : ¬ i.takesValue = true) (arg name : String)
    (value : Option String) (rest : List (String × Mark)) :
    f.fill ((arg, .item i name value) :: rest) =
      joined (settingsOnly (f.bare i name value)) (f.fill rest) := by
  conv => lhs; unfold fill
  rw [if_neg htakes]
  cases f.bare i name value <;> rfl

lemma fill_other (arg : String) {m : Mark}
    (hm : ∀ i name value, m ≠ .item i name value) (rest : List (String × Mark)) :
    f.fill ((arg, m) :: rest) = joined (.ok ([], [arg])) (f.fill rest) := by
  cases m with
  | item i name value => exact absurd rfl (hm i name value)
  | plain | separator | unknown => rfl

/-- Arguments take their values independently of an option that follows. -/
lemma fill_append (hms : OptionFirst ms) (own : List (String × Mark)) :
    f.fill (own ++ ms) = joined (f.fill own) (f.fill ms) := by
  induction own using fill.induct with
  | case1 =>
    rw [List.nil_append, fill]
    cases f.fill ms <;> rfl
  | case2 arg i name htakes v rest ih =>
    rw [List.cons_append, fill_attached htakes, fill_attached htakes, ih, joined_assoc]
  | case3 arg i name htakes v rest ih =>
    rw [List.cons_append, List.cons_append, fill_following htakes, fill_following htakes, ih,
      joined_assoc]
  | case4 arg i name rest htakes hrest =>
    have hfirst : OptionFirst (rest ++ ms) := by
      cases rest with
      | nil => exact hms
      | cons p rest =>
        intro v more h
        obtain ⟨rfl, -⟩ := List.cons.inj h
        exact hrest v rest rfl
    rw [List.cons_append, fill_alone htakes arg name hfirst, fill_alone htakes arg name hrest]
    rfl
  | case5 arg i name value rest htakes ih =>
    rw [List.cons_append, fill_bare htakes, fill_bare htakes, ih, joined_assoc]
  | case6 arg m rest hm ih =>
    rw [List.cons_append, fill_other arg hm, fill_other arg hm, ih, joined_assoc]

/-- Every setting has the key of an item among the arguments. -/
def SetBy (ms : List (String × Mark)) (s : Settings) : Prop :=
  ∀ p ∈ s, ∃ arg i name value, (arg, Mark.item i name value) ∈ ms ∧ p.1 = i.key

lemma SetBy.mono {ms' : List (String × Mark)} {s : Settings} (h : SetBy ms s) (hsub : ms ⊆ ms') :
    SetBy ms' s := by
  intro p hp
  obtain ⟨arg, i, name, value, hmem, hkey⟩ := h p hp
  exact ⟨arg, i, name, value, hsub hmem, hkey⟩

lemma key_of_filled {i : Item} {v : String} {s : Settings} (h : f.filled i v = .ok s) :
    ∀ p ∈ s, p.1 = i.key := by
  unfold filled at h
  split at h
  · obtain rfl := Except.ok.inj h
    exact List.forall_mem_singleton.mpr rfl
  · cases h

lemma key_of_bare {i : Item} {name : String} {value : Option String} {s : Settings}
    (h : f.bare i name value = .ok s) : ∀ p ∈ s, p.1 = i.key := by
  unfold bare at h
  dsimp only at h
  split at h
  · cases h
  · split at h
    · cases h
    · obtain rfl := Except.ok.inj h
      exact List.forall_mem_singleton.mpr rfl

lemma setBy_joined {i : Item} {arg name : String} {value : Option String} {s : Settings}
    {left : List String} {x : Except Stop Settings}
    (hmem : (arg, Mark.item i name value) ∈ ms) (hx : ∀ here, x = .ok here → ∀ p ∈ here, p.1 = i.key)
    (hown : ∀ {s left}, f.fill own = .ok (s, left) → SetBy own s) (hsub : own ⊆ ms)
    (h : joined (settingsOnly x) (f.fill own) = .ok (s, left)) : SetBy ms s := by
  obtain ⟨here, _, there, _, hhere, hthere, rfl, -⟩ := exists_of_joined_ok h
  intro p hp
  rcases List.mem_append.mp hp with hp | hp
  · cases x with
    | error e => cases hhere
    | ok s =>
      obtain ⟨rfl, -⟩ := Prod.mk.inj (Except.ok.inj hhere)
      exact ⟨arg, i, name, value, hmem, hx s rfl p hp⟩
  · exact (hown hthere).mono hsub p hp

lemma setBy_of_fill {s : Settings} {left : List String} (h : f.fill ms = .ok (s, left)) :
    SetBy ms s := by
  induction ms using fill.induct generalizing s left with
  | case1 =>
    obtain ⟨rfl, -⟩ := Prod.mk.inj (Except.ok.inj h)
    exact List.forall_mem_nil _
  | case2 arg i name htakes v rest ih =>
    rw [fill_attached htakes] at h
    exact setBy_joined List.mem_cons_self (fun _ => key_of_filled) ih (List.subset_cons_self _ _) h
  | case3 arg i name htakes v rest ih =>
    rw [fill_following htakes] at h
    exact setBy_joined List.mem_cons_self (fun _ => key_of_filled) ih
      (fun p hp => List.mem_cons_of_mem _ (List.mem_cons_of_mem _ hp)) h
  | case4 arg i name rest htakes hrest =>
    rw [fill_alone htakes arg name hrest] at h
    cases h
  | case5 arg i name value rest htakes ih =>
    rw [fill_bare htakes] at h
    exact setBy_joined List.mem_cons_self (fun _ => key_of_bare) ih (List.subset_cons_self _ _) h
  | case6 arg m rest hm ih =>
    rw [fill_other arg hm] at h
    obtain ⟨_, _, there, _, hother, hthere, rfl, -⟩ := exists_of_joined_ok h
    obtain ⟨rfl, -⟩ := Prod.mk.inj (Except.ok.inj hother)
    exact (ih hthere).mono (List.subset_cons_self _ _)

end Form

/-- A line that starts with the name of a command is read as the form of the command says, once the menu
has told its arguments apart. -/
lemma Menu.read_command {m : Menu} {c : Command} {name : String}
    (hfind : m.commands.find? (·.name == name) = some c) (hname : name ≠ "--")
    (hplain : m.form.mark name = .ok .plain) (rest : List String) : m.read (name :: rest) =
      match m.form.marks rest with
      | .error e => .error (.refused m.form.program e)
      | .ok _ => (do
        let (settings, left) ← c.form.read rest
        if left.isEmpty then .ok (some (name, settings))
        else .error (.refused m.form.program (.leftOver left))) := by
  unfold read
  rw [Form.marks_cons hname, hplain, ok_bind]
  cases hmarks : m.form.marks rest with
  | error e => rfl
  | ok ms =>
    have hlead : m.lead ((name, .plain) :: ms) = .ok ([], name :: rest) := by
      rw [lead, Form.map_fst_of_marks hmarks]
    rw [ok_bind]
    dsimp only
    rw [hlead, ok_bind]
    dsimp only
    rw [hfind]
    dsimp only
    cases c.form.read rest with
    | error e => rfl
    | ok p => rfl

end Options

end TickWalk
