import TickWalk.Proofs.Options.Read
import Mathlib.Data.List.Forall2

/-!
# Options in any order

Where options of one row are mixed with those of another one, in any order, the line is read as both rows
are: it is refused for the same reason as the others alone, and otherwise the settings of the two rows are
mixed in the same way. What is looked up is then independent of the order, as long as the two rows set
different things.
-/

namespace TickWalk

/-! ### Interleaving -/

/-- The third list mixes the other two, each in its own order. -/
inductive Interleaved {α : Type} : List α → List α → List α → Prop
  | nil : Interleaved [] [] []
  | left {x : α} {xs ys zs : List α} (h : Interleaved xs ys zs) : Interleaved (x :: xs) ys (x :: zs)
  | right {y : α} {xs ys zs : List α} (h : Interleaved xs ys zs) : Interleaved xs (y :: ys) (y :: zs)

namespace Interleaved

variable {α : Type} {xs ys zs : List α} {p : α → Bool}

lemma swap (h : Interleaved xs ys zs) : Interleaved ys xs zs := by
  induction h with
  | nil => exact .nil
  | left _ ih => exact .right ih
  | right _ ih => exact .left ih

lemma filter_eq_left (h : Interleaved xs ys zs) (hys : ∀ y ∈ ys, p y = false) :
    zs.filter p = xs.filter p := by
  induction h with
  | nil => rfl
  | left _ ih => rw [List.filter_cons, List.filter_cons, ih hys]
  | right _ ih =>
    rw [List.forall_mem_cons] at hys
    rw [List.filter_cons, hys.1, ih hys.2]
    rfl

lemma append_left (h : Interleaved xs ys zs) (before : List α) :
    Interleaved xs (before ++ ys) (before ++ zs) := by
  induction before with
  | nil => exact h
  | cons y before ih => exact .right ih

end Interleaved

namespace Value

variable {fields given own all : List (String × Value)} {name : String} {v : Value}

lemma field?_eq (fields : List (String × Value)) (name : String) :
    field? fields name = ((fields.filter (·.1 == name)).getLast?).map (·.2) := by
  unfold field?
  rw [← List.head?_filter, List.filter_reverse, List.head?_reverse]

lemma field?_eq_left (h : Interleaved given own all) (hname : name ∉ own.map Prod.fst) :
    field? all name = field? given name := by
  rw [field?_eq, field?_eq, h.filter_eq_left]
  intro f hf
  rw [beq_eq_false_iff_ne]
  rintro rfl
  exact hname (List.mem_map_of_mem hf)

lemma field?_eq_right (h : Interleaved given own all) (hname : name ∉ given.map Prod.fst) :
    field? all name = field? own name := field?_eq_left h.swap hname

lemma field?_of_mem (hnames : (fields.map Prod.fst).Nodup) (h : (name, v) ∈ fields) :
    field? fields name = some v := by
  rw [field?_eq]
  induction fields with
  | nil => cases h
  | cons f fields ih =>
    rw [List.map_cons, List.nodup_cons] at hnames
    rcases List.mem_cons.mp h with rfl | h
    · have hrest : fields.filter (·.1 == name) = [] := by
        rw [List.filter_eq_nil_iff]
        intro f hf hname
        exact hnames.1 (List.mem_map.mpr ⟨f, hf, eq_of_beq hname⟩)
      rw [List.filter_cons, hrest]
      simp only [beq_self_eq_true, if_true]
      rfl
    · have hother : (f.1 == name) = false := by
        rw [beq_eq_false_iff_ne]
        rintro rfl
        exact hnames.1 (List.mem_map.mpr ⟨_, h, rfl⟩)
      rw [List.filter_cons, hother]
      exact ih hnames.2 h

lemma field?_eq_none (h : name ∉ fields.map Prod.fst) : field? fields name = none := by
  rw [field?_eq]
  have hrest : fields.filter (·.1 == name) = [] := by
    rw [List.filter_eq_nil_iff]
    intro f hf hname
    exact h (List.mem_map.mpr ⟨f, hf, eq_of_beq hname⟩)
  rw [hrest]
  rfl

end Value

namespace Options.Form

variable {f : Form} {keys : List String} {given given' : Settings}
  {ns ns' os line line' : List (List String)}

/-- An option with its value, which are two arguments and give one setting under the option's name. -/
inductive Gives (f : Form) : List String → String × Value → Prop
  | pair {i : Item} {name value : String} {v : Value} (hname : name ≠ "--") (hvalue : value ≠ "--")
      (hitem : f.mark name = .ok (.item i name none)) (hplain : f.mark value = .ok .plain)
      (htakes : i.takesValue = true) (hkey : i.key = name) (hv : valueOf i value = .ok v) :
      Gives f [name, value] (name, v)

/-- Arguments that start with an option and set none of the keys. -/
structure Apart (f : Form) (keys args : List String) : Prop where
  option : ∃ arg more, args = arg :: more ∧ f.mark arg ≠ .ok .plain
  separator : "--" ∉ args
  unset : ∀ arg ∈ args, ∀ i name value, f.mark arg = .ok (.item i name value) → i.key ∉ keys

lemma Gives.apart {args : List String} {setting : String × Value} (h : Gives f args setting)
    (hkeys : setting.1 ∉ keys) : Apart f keys args := by
  obtain @⟨i, name, value, v, hname, hvalue, hitem, hplain, -, hkey, -⟩ := h
  refine ⟨⟨name, [value], rfl, ?_⟩, ?_, ?_⟩
  · rw [hitem]
    rintro ⟨⟩
  · rw [List.mem_cons, List.mem_singleton, not_or]
    exact ⟨Ne.symm hname, Ne.symm hvalue⟩
  · rw [List.forall_mem_cons, List.forall_mem_singleton]
    constructor
    · intro j name' value' hmark
      obtain ⟨rfl, -⟩ := Mark.item.inj (Except.ok.inj (hitem.symm.trans hmark))
      rw [hkey]
      exact hkeys
    · intro j name' value' hmark
      cases hplain.symm.trans hmark

lemma apart_of_mark {arg name : String} {i : Item} {value : Option String}
    (hmark : f.mark arg = .ok (.item i name value)) (harg : arg ≠ "--") (hkey : i.key ∉ keys) :
    Apart f keys [arg] := by
  refine ⟨⟨arg, [], rfl, ?_⟩, ?_, ?_⟩
  · rw [hmark]
    rintro ⟨⟩
  · rw [List.mem_singleton]
    exact Ne.symm harg
  · rw [List.forall_mem_singleton]
    intro j name' value' h
    obtain ⟨rfl, -⟩ := Mark.item.inj (Except.ok.inj (hmark.symm.trans h))
    exact hkey

/-- Arguments read with the settings `given` mixed in, against the same arguments without them. -/
structure Adds (f : Form) (given : Settings) (own ms : List (String × Mark)) : Prop where
  stops : ∀ stop, f.fill own = .error stop → f.fill ms = .error stop
  fills : ∀ s left, f.fill own = .ok (s, left) →
    ∃ all, f.fill ms = .ok (all, left) ∧ Interleaved given s all

/-- Both rows are refused for the same reason, or one adds settings to the other. -/
inductive Woven (f : Form) (given : Settings) :
    Except Refusal (List (String × Mark)) → Except Refusal (List (String × Mark)) → Prop
  | refused (e : Refusal) : Woven f given (.error e) (.error e)
  | marked {own ms : List (String × Mark)} (hown : OptionFirst own) (hms : OptionFirst ms)
      (hadds : Adds f given own ms) : Woven f given (.ok own) (.ok ms)

lemma optionFirst_nil : OptionFirst [] := by
  rintro v more ⟨⟩

lemma Apart.optionFirst {args : List String} {ms rest : List (String × Mark)}
    (h : Apart f keys args) (hms : f.marks args = .ok ms) : OptionFirst (ms ++ rest) := by
  obtain ⟨arg, more, rfl, hoption⟩ := h.option
  have harg : arg ≠ "--" := fun heq => h.separator (heq ▸ List.mem_cons_self)
  rw [marks_cons harg] at hms
  obtain ⟨m, hm, hms⟩ := exists_of_bind_ok hms
  obtain ⟨ms, -, hms⟩ := exists_of_bind_ok hms
  obtain rfl := Except.ok.inj hms
  intro v more h
  obtain ⟨rfl⟩ := (Prod.mk.inj (List.cons.inj h).1).2
  exact hoption hm

lemma woven_given {args : List String} {setting : String × Value}
    {own ms : Except Refusal (List (String × Mark))} (hg : Gives f args setting) (rest : List String)
    (hms : f.marks rest = ms) (h : Woven f given own ms) :
    Woven f (setting :: given) own (f.marks (args ++ rest)) := by
  obtain @⟨i, name, value, v, hname, hvalue, hitem, hplain, htakes, hkey, hv⟩ := hg
  rw [List.cons_append, List.cons_append, List.nil_append, marks_cons hname, marks_cons hvalue, hitem,
    hplain, hms]
  cases h with
  | refused e => exact .refused e
  | @marked own ms hown hms hadds =>
    have hfill : f.fill ((name, .item i name none) :: (value, .plain) :: ms) =
        joined (.ok ([(name, v)], [])) (f.fill ms) := by
      rw [fill_following htakes, filled, hv, hkey]
      rfl
    refine .marked hown (by rintro v more ⟨⟩) ⟨?_, ?_⟩
    · intro stop hstop
      rw [hfill, hadds.stops stop hstop]
      rfl
    · intro s left hs
      obtain ⟨all, hall, hmixed⟩ := hadds.fills s left hs
      refine ⟨(name, v) :: all, ?_, hmixed.left⟩
      rw [hfill, hall]
      rfl

lemma woven_apart {args : List String} {own ms : Except Refusal (List (String × Mark))}
    (hargs : Apart f keys args) (rest more : List String) (hrest : f.marks rest = own)
    (hmore : f.marks more = ms) (h : Woven f given own ms) :
    Woven f given (f.marks (args ++ rest)) (f.marks (args ++ more)) := by
  rw [marks_append hargs.separator, marks_append hargs.separator, hrest, hmore]
  cases hhere : f.marks args with
  | error e => exact .refused e
  | ok here =>
    cases h with
    | refused e => exact .refused e
    | @marked own ms hown hms hadds =>
      refine .marked (hargs.optionFirst hhere) (hargs.optionFirst hhere) ⟨?_, ?_⟩
      · intro stop hstop
        rw [fill_append hown] at hstop
        rw [fill_append hms]
        cases hfill : f.fill here with
        | error e =>
          rw [hfill] at hstop
          exact hstop
        | ok p =>
          rw [hfill] at hstop
          have hstop : f.fill own = .error stop := by
            cases hfill : f.fill own with
            | error e =>
              rw [hfill] at hstop
              exact hstop
            | ok q =>
              rw [hfill] at hstop
              cases hstop
          rw [hadds.stops stop hstop]
          rfl
      · intro s left hs
        rw [fill_append hown] at hs
        obtain ⟨s₁, left₁, s₂, left₂, hfirst, hsecond, rfl, rfl⟩ := exists_of_joined_ok hs
        obtain ⟨all, hall, hmixed⟩ := hadds.fills s₂ left₂ hsecond
        refine ⟨s₁ ++ all, ?_, hmixed.append_left s₁⟩
        rw [fill_append hms, hfirst, hall]
        rfl

lemma woven (hline : Interleaved ns os line) (hns : List.Forall₂ (Gives f) ns given)
    (hos : ∀ args ∈ os, Apart f keys args) :
    Woven f given (f.marks os.flatten) (f.marks line.flatten) := by
  induction hline generalizing given with
  | nil =>
    cases hns
    refine .marked optionFirst_nil optionFirst_nil ⟨fun _ h => h, ?_⟩
    intro s left h
    obtain ⟨rfl, -⟩ := Prod.mk.inj (Except.ok.inj h)
    exact ⟨[], h, .nil⟩
  | left _ ih =>
    obtain _ | ⟨hg, hns⟩ := hns
    exact woven_given hg _ rfl (ih hns hos)
  | right _ ih =>
    rw [List.forall_mem_cons] at hos
    exact woven_apart hos.1 _ _ rfl rfl (ih hns hos.2)

/-- What tells the others apart tells a line apart into which arguments are mixed that can be told
apart. -/
lemma marks_of_interleaved (hline : Interleaved ns os line)
    (hns : ∀ args ∈ ns, "--" ∉ args ∧ ∃ ms, f.marks args = .ok ms) (hos : ∀ args ∈ os, "--" ∉ args) :
    (∃ e, f.marks os.flatten = .error e ∧ f.marks line.flatten = .error e) ∨
      ∃ own ms, f.marks os.flatten = .ok own ∧ f.marks line.flatten = .ok ms := by
  induction hline with
  | nil => exact .inr ⟨[], [], rfl, rfl⟩
  | left _ ih =>
    rw [List.forall_mem_cons] at hns
    obtain ⟨hseparator, here, hhere⟩ := hns.1
    rw [List.flatten_cons, marks_append hseparator, hhere]
    obtain ⟨e, hown, hms⟩ | ⟨own, ms, hown, hms⟩ := ih hns.2 hos
    · refine .inl ⟨e, hown, ?_⟩
      rw [hms]
      rfl
    · refine .inr ⟨own, here ++ ms, hown, ?_⟩
      rw [hms]
      rfl
  | right _ ih =>
    rw [List.forall_mem_cons] at hos
    rw [List.flatten_cons, List.flatten_cons, marks_append hos.1, marks_append hos.1]
    cases f.marks _ with
    | error e => exact .inl ⟨e, rfl, rfl⟩
    | ok here =>
      obtain ⟨e, hown, hms⟩ | ⟨own, ms, hown, hms⟩ := ih hns hos.2
      · refine .inl ⟨e, ?_⟩
        rw [hown, hms]
        exact ⟨rfl, rfl⟩
      · refine .inr ⟨here ++ own, here ++ ms, ?_⟩
        rw [hown, hms]
        exact ⟨rfl, rfl⟩

lemma marks_alike_of_interleaved {ns' : List (List String)} {line' : List (List String)}
    (hline : Interleaved ns os line) (hline' : Interleaved ns' os line')
    (hns : ∀ args ∈ ns, "--" ∉ args ∧ ∃ ms, f.marks args = .ok ms)
    (hns' : ∀ args ∈ ns', "--" ∉ args ∧ ∃ ms, f.marks args = .ok ms)
    (hos : ∀ args ∈ os, "--" ∉ args) :
    (∃ e, f.marks line.flatten = .error e ∧ f.marks line'.flatten = .error e) ∨
      ∃ ms ms', f.marks line.flatten = .ok ms ∧ f.marks line'.flatten = .ok ms' := by
  obtain ⟨e, hown, hms⟩ | ⟨own, ms, hown, hms⟩ := marks_of_interleaved hline hns hos
  · obtain ⟨e', hown', hms'⟩ | ⟨own', ms', hown', -⟩ := marks_of_interleaved hline' hns' hos
    · obtain rfl := Except.error.inj (hown.symm.trans hown')
      exact .inl ⟨e, hms, hms'⟩
    · cases hown.symm.trans hown'
  · obtain ⟨e', hown', -⟩ | ⟨own', ms', -, hms'⟩ := marks_of_interleaved hline' hns' hos
    · cases hown.symm.trans hown'
    · exact .inr ⟨ms, ms', hms, hms'⟩

/-- What reading one line and another one comes to: the same stop, or settings that mix what each line
gives with the same others, which set none of the keys. -/
inductive ReadAlike (keys : List String) (given given' : Settings) :
    Except Stop (Settings × List String) → Except Stop (Settings × List String) → Prop
  | stopped (stop : Stop) : ReadAlike keys given given' (.error stop) (.error stop)
  | settled {own all all' : Settings} (left : List String) (hown : ∀ p ∈ own, p.1 ∉ keys)
      (hall : Interleaved given own all) (hall' : Interleaved given' own all') :
      ReadAlike keys given given' (.ok (all, left)) (.ok (all', left))

lemma isSet_of_mem {s : Settings} {key : String} (h : key ∈ s.map Prod.fst) : s.isSet key = true := by
  obtain ⟨p, hp, rfl⟩ := List.mem_map.mp h
  have hmem : p ∈ s.filter (·.1 == p.1) := List.mem_filter.mpr ⟨hp, beq_self_eq_true _⟩
  unfold Settings.isSet Settings.value?
  rw [Value.field?_eq, Option.isSome_map, Option.isSome_iff_ne_none, Ne, List.getLast?_eq_none_iff]
  exact List.ne_nil_of_mem hmem

lemma isSet_eq {own all all' : Settings} {key : String} (hown : ∀ p ∈ own, p.1 ∉ keys)
    (hall : Interleaved given own all) (hall' : Interleaved given' own all')
    (hgiven : given.map Prod.fst ⊆ keys) (hgiven' : given'.map Prod.fst ⊆ keys)
    (hkey : key ∈ keys → key ∈ given.map Prod.fst ∧ key ∈ given'.map Prod.fst) :
    all.isSet key = all'.isSet key := by
  unfold Settings.isSet Settings.value?
  by_cases h : key ∈ keys
  · have hnone : key ∉ own.map Prod.fst := by
      intro hmem
      obtain ⟨p, hp, rfl⟩ := List.mem_map.mp hmem
      exact hown p hp h
    rw [Value.field?_eq_left hall hnone, Value.field?_eq_left hall' hnone]
    exact (isSet_of_mem (hkey h).1).trans (isSet_of_mem (hkey h).2).symm
  · rw [Value.field?_eq_right hall fun hmem => h (hgiven hmem),
      Value.field?_eq_right hall' fun hmem => h (hgiven' hmem)]

/-- Two lines whose options differ in what sets the keys alone are read alike. -/
theorem readAlike (hline : Interleaved ns os line) (hline' : Interleaved ns' os line')
    (hns : List.Forall₂ (Gives f) ns given) (hns' : List.Forall₂ (Gives f) ns' given')
    (hos : ∀ args ∈ os, Apart f keys args) (hgiven : given.map Prod.fst ⊆ keys)
    (hgiven' : given'.map Prod.fst ⊆ keys)
    (hrequired : ∀ i ∈ f.items, i.required = true → i.key ∈ keys →
      i.key ∈ given.map Prod.fst ∧ i.key ∈ given'.map Prod.fst) :
    ReadAlike keys given given' (f.read line.flatten) (f.read line'.flatten) := by
  have hwoven := woven hline hns hos
  have hwoven' := woven hline' hns' hos
  have hunset : ∀ own, f.marks os.flatten = .ok own → ∀ s left, f.fill own = .ok (s, left) →
      ∀ p ∈ s, p.1 ∉ keys := by
    intro own hown s left hs p hp
    have hseparator : "--" ∉ os.flatten := by
      intro hmem
      obtain ⟨args, hargs, hmem⟩ := List.mem_flatten.mp hmem
      exact (hos args hargs).separator hmem
    obtain ⟨arg, i, name, value, hmem, hkey⟩ := setBy_of_fill hs p hp
    obtain ⟨harg, hmark⟩ := mark_of_mem_marks hseparator hown _ hmem
    obtain ⟨args, hargs, harg⟩ := List.mem_flatten.mp harg
    rw [hkey]
    exact (hos args hargs).unset arg harg i name value hmark
  unfold read
  generalize f.marks os.flatten = x at hwoven hwoven' hunset
  generalize f.marks line.flatten = y at hwoven
  generalize f.marks line'.flatten = z at hwoven'
  cases hwoven with
  | refused e =>
    cases hwoven' with
    | refused => exact .stopped _
  | @marked own ms _ _ hadds =>
    obtain @⟨_⟩ | @⟨_, ms', _, _, hadds'⟩ := hwoven'
    cases hown : f.fill own with
    | error stop =>
      dsimp only
      rw [hadds.stops stop hown, hadds'.stops stop hown]
      exact .stopped stop
    | ok p =>
      obtain ⟨s, left⟩ := p
      obtain ⟨all, hall, hmixed⟩ := hadds.fills s left hown
      obtain ⟨all', hall', hmixed'⟩ := hadds'.fills s left hown
      have hunset := hunset own rfl s left hown
      have hmissing : (f.items.filter fun i => i.required && !all.isSet i.key) =
          f.items.filter fun i => i.required && !all'.isSet i.key := by
        apply List.filter_congr
        intro i hi
        by_cases hrequire : i.required = true
        · rw [isSet_eq hunset hmixed hmixed' hgiven hgiven' (hrequired i hi hrequire)]
        · rw [eq_false_of_ne_true hrequire]
          rfl
      dsimp only
      rw [hall, hall', ok_bind, ok_bind]
      dsimp only
      rw [hmissing]
      split
      · exact .settled left hunset hmixed hmixed'
      · exact .stopped _

end Options.Form

end TickWalk
