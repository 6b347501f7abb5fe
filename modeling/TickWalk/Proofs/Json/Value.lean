import TickWalk.Json.Write
import TickWalk.Proofs.Json.Number
import TickWalk.Proofs.Json.Text

/-!
# Texts of values

What a text is for a value: it is ASCII, a value of the grammar, and read as that value whatever follows
it. The texts of lists and maps are put together from those of their parts, in every layout.
-/

namespace TickWalk

namespace Json

variable {l : Layout} {v : Value} {vs : List Value} {name : String}
  {fields : List (String × Value)} {c : Char} {s gap first text rest : List Char}

/-! ### Blanks -/

lemma blanks_nil : Blanks [] := List.forall_mem_nil _

lemma blanks_space : Blanks [' '] := List.forall_mem_singleton.mpr rfl

lemma skipBlanks_append (h : Blanks gap) (s : List Char) : skipBlanks (gap ++ s) = skipBlanks s :=
  List.dropWhile_append_of_pos h

lemma skipBlanks_cons (h : isBlank c = false) (s : List Char) : skipBlanks (c :: s) = c :: s := by
  unfold skipBlanks
  rw [List.dropWhile_cons, h]
  rfl

/-- Layouts whose margin is blank. -/
def Layout.Blank : Layout → Prop
  | .oneLine => True
  | .lines margin => Blanks margin

lemma Layout.Blank.newLine (hl : l.Blank) (depth : Nat) : Blanks (l.newLine depth) := by
  cases l with
  | oneLine => exact blanks_nil
  | lines margin =>
    intro c hc
    rcases List.mem_cons.mp hc with rfl | hc
    · rfl
    · obtain ⟨line, hline, hc⟩ := List.mem_flatten.mp hc
      rw [List.eq_of_mem_replicate hline] at hc
      exact hl c hc

lemma Layout.Blank.comma (hl : l.Blank) (depth : Nat) :
    ∃ gap, Blanks gap ∧ l.comma depth = ',' :: gap := by
  cases l with
  | oneLine => exact ⟨_, blanks_space, rfl⟩
  | lines margin => exact ⟨_, hl.newLine depth, rfl⟩

lemma ascii_of_blanks (h : Blanks gap) : ∀ c ∈ gap, c.toNat < 128 := by
  intro c hc
  rcases isBlank_iff.mp (h c hc) with rfl | rfl | rfl | rfl <;> decide

/-! ### What a text is for a value -/

/-- The text is a form of the value, from which it is read whatever follows. -/
structure Faithful (v : Value) (text : List Char) : Prop where
  ascii : ∀ c ∈ text, c.toNat < 128
  valid : IsValue text
  starts : ∃ c s, text = c :: s ∧ isBlank c = false ∧ c ≠ ']' ∧ c ≠ '\x7d'
  reads : ∀ fuel rest, text.length < fuel → Stops rest →
    readValue fuel (text ++ rest) = some (v, rest)

/-- The text holds the items after a first one, each behind a comma. -/
structure FaithfulItems (vs : List Value) (text : List Char) : Prop where
  ascii : ∀ c ∈ text, c.toNat < 128
  valid : ∀ {before first after : List Char}, Blanks before → IsValue first → Blanks after →
    IsItems (before ++ first ++ text ++ after)
  reads : ∀ {v : Value} {first after : List Char} (fuel : Nat) (rest : List Char),
    Faithful v first → Blanks after → first.length + text.length + 1 < fuel →
    readItems fuel (first ++ text ++ after ++ ']' :: rest) = some (v :: vs, rest)

/-- The text holds the fields after a first one, each behind a comma. -/
structure FaithfulFields (fields : List (String × Value)) (text : List Char) : Prop where
  ascii : ∀ c ∈ text, c.toNat < 128
  valid : ∀ {before first after : List Char} (name : String), Blanks before → IsValue first →
    Blanks after → IsFields (before ++ writeText name ++ ':' :: ' ' :: first ++ text ++ after)
  reads : ∀ {v : Value} {first after : List Char} (name : String) (fuel : Nat) (rest : List Char),
    Faithful v first → Blanks after → first.length + text.length + 1 < fuel →
    readFields fuel (writeText name ++ ':' :: ' ' :: first ++ text ++ after ++ '\x7d' :: rest) =
      some ((name, v) :: fields, rest)

lemma stops_nil : Stops [] := fun _ hc => absurd hc (Option.not_mem_none _)

lemma stops_comma (s : List Char) : Stops (',' :: s) := by
  rintro c ⟨⟩
  exact .inl rfl

lemma stops_blanks (hgap : Blanks gap) (hc : c = ']' ∨ c = '\x7d') (rest : List Char) :
    Stops (gap ++ c :: rest) := by
  intro d hd
  cases gap with
  | nil =>
    obtain rfl := Option.some.inj hd
    exact .inr (hc.elim .inl fun h => .inr (.inl h))
  | cons b gap =>
    obtain rfl := Option.some.inj hd
    exact .inr (.inr (.inr (hgap b List.mem_cons_self)))

lemma Faithful.skipBlanks_append (h : Faithful v text) (rest : List Char) :
    skipBlanks (text ++ rest) = text ++ rest := by
  obtain ⟨c, s, rfl, hc, -⟩ := h.starts
  exact skipBlanks_cons hc (s ++ rest)

/-! ### Values without parts -/

lemma faithful_null : Faithful .null ['n', 'u', 'l', 'l'] where
  ascii := List.all_iff_forall_prop.mp (by decide)
  valid := .null
  starts := ⟨_, _, rfl, rfl, by decide, by decide⟩
  reads fuel rest hfuel _ := by
    obtain ⟨fuel, rfl⟩ := Nat.exists_eq_add_one.mpr (Nat.zero_lt_of_lt hfuel)
    rfl

lemma faithful_true : Faithful (.bool true) ['t', 'r', 'u', 'e'] where
  ascii := List.all_iff_forall_prop.mp (by decide)
  valid := .true
  starts := ⟨_, _, rfl, rfl, by decide, by decide⟩
  reads fuel rest hfuel _ := by
    obtain ⟨fuel, rfl⟩ := Nat.exists_eq_add_one.mpr (Nat.zero_lt_of_lt hfuel)
    rfl

lemma faithful_false : Faithful (.bool false) ['f', 'a', 'l', 's', 'e'] where
  ascii := List.all_iff_forall_prop.mp (by decide)
  valid := .false
  starts := ⟨_, _, rfl, rfl, by decide, by decide⟩
  reads fuel rest hfuel _ := by
    obtain ⟨fuel, rfl⟩ := Nat.exists_eq_add_one.mpr (Nat.zero_lt_of_lt hfuel)
    rfl

lemma faithful_int (i : Int) : Faithful (.int i) (Text.writeInteger i) where
  ascii := by
    intro c hc
    unfold Text.writeInteger at hc
    have hdigits : ∀ c ∈ Nat.toDigits 10 i.natAbs, c.toNat < 128 := by
      intro c hc
      have := Text.toNat_of_isDigit (Text.isDigit_of_mem_toDigits i.natAbs c hc)
      omega
    dsimp only at hc
    split at hc
    · rcases List.mem_cons.mp hc with rfl | hc
      · decide
      · exact hdigits c hc
    · exact hdigits c hc
  valid := .number (number_writeInteger i)
  starts := by
    obtain ⟨c, s, hs, hc⟩ := writeInteger_cons i
    refine ⟨c, s, hs, ?_⟩
    have hplain : ∀ c ∈ numberStarts, isBlank c = false ∧ c ≠ ']' ∧ c ≠ '\x7d' :=
      List.all_iff_forall_prop.mp (by decide)
    exact hplain c hc
  reads fuel rest hfuel hrest := by
    obtain ⟨fuel, rfl⟩ := Nat.exists_eq_add_one.mpr (Nat.zero_lt_of_lt hfuel)
    have hread := number?_writeInteger i hrest
    obtain ⟨c, s, hs, hc⟩ := writeInteger_cons i
    rw [hs] at hread ⊢
    exact (readValue_of_mem_numberStarts hc fuel (s ++ rest)).trans hread

lemma faithful_text (s : String) : Faithful (.text s) (writeText s) where
  ascii := ascii_writeText s
  valid := isValue_writeText s
  starts := ⟨_, _, rfl, rfl, by decide, by decide⟩
  reads fuel rest hfuel _ := by
    obtain ⟨fuel, rfl⟩ := Nat.exists_eq_add_one.mpr (Nat.zero_lt_of_lt hfuel)
    have hread : readValue (fuel + 1) (writeText s ++ rest) =
        (readText (s.toList.flatMap writeChar ++ '"' :: rest)).map fun p => (.text p.1, p.2) := by
      rw [writeText_eq, List.append_assoc]
      rfl
    rw [hread, readText_flatMap]
    rfl

/-! ### Lists -/

lemma faithful_noItems : Faithful (.list []) ['[', ']'] where
  ascii := List.all_iff_forall_prop.mp (by decide)
  valid := .noItems blanks_nil
  starts := ⟨_, _, rfl, rfl, by decide, by decide⟩
  reads fuel rest hfuel _ := by
    obtain ⟨fuel, rfl⟩ := Nat.exists_eq_add_one.mpr (Nat.zero_lt_of_lt hfuel)
    rfl

lemma readItems_last {fuel : Nat} {after : List Char} (hv : readValue fuel s = some (v, rest))
    (hrest : skipBlanks rest = ']' :: after) : readItems (fuel + 1) s = some ([v], after) := by
  simp only [readItems, hv, hrest, Option.bind_eq_bind, Option.bind_some]

lemma readItems_more {fuel : Nat} {more after : List Char}
    (hv : readValue fuel s = some (v, rest)) (hrest : skipBlanks rest = ',' :: more)
    (hmore : readItems fuel (skipBlanks more) = some (vs, after)) :
    readItems (fuel + 1) s = some (v :: vs, after) := by
  simp only [readItems, hv, hrest, hmore, Option.bind_eq_bind, Option.bind_some]

lemma readValue_list {fuel : Nat} {after : List Char} (hs : skipBlanks s = c :: rest) (hc : c ≠ ']')
    (hitems : readItems fuel (c :: rest) = some (vs, after)) :
    readValue (fuel + 1) ('[' :: s) = some (.list vs, after) := by
  have hread : readValue (fuel + 1) ('[' :: s) =
      (readItems fuel (skipBlanks s)).map fun p => (.list p.1, p.2) := by
    rw [readValue]
    split
    · rename_i heq
      rw [hs] at heq
      exact absurd (List.cons.inj heq).1 hc
    · rfl
  rw [hread, hs, hitems]
  rfl

lemma faithfulItems_nil : FaithfulItems [] [] where
  ascii := List.forall_mem_nil _
  valid hbefore hfirst hafter := by
    rw [List.append_nil]
    exact .last (.padded hbefore hfirst hafter)
  reads {v first after} fuel rest hfirst hafter hfuel := by
    obtain ⟨fuel, rfl⟩ := Nat.exists_eq_add_one.mpr (Nat.zero_lt_of_lt hfuel)
    have hread := hfirst.reads fuel (after ++ ']' :: rest) (by omega)
      (stops_blanks hafter (.inl rfl) rest)
    rw [List.append_nil, List.append_assoc]
    exact readItems_last hread (skipBlanks_append hafter _)

lemma faithfulItems_cons {more : List Char} (hl : l.Blank) (depth : Nat) (hv : Faithful v first)
    (hvs : FaithfulItems vs more) : FaithfulItems (v :: vs) (l.comma depth ++ first ++ more) := by
  obtain ⟨gap, hgap, hcomma⟩ := hl.comma depth
  rw [hcomma]
  constructor
  · rw [List.append_assoc, List.cons_append, List.forall_mem_cons, List.forall_mem_append,
      List.forall_mem_append]
    exact ⟨by decide, ascii_of_blanks hgap, hv.ascii, hvs.ascii⟩
  · intro before value after hbefore hvalue hafter
    have hrest := hvs.valid hgap hv.valid hafter
    have h := IsItems.more (.padded hbefore hvalue blanks_nil) hrest
    simpa only [List.append_assoc, List.cons_append, List.nil_append] using h
  · intro w value after fuel rest hvalue hafter hfuel
    obtain ⟨fuel, rfl⟩ := Nat.exists_eq_add_one.mpr (Nat.zero_lt_of_lt hfuel)
    simp only [List.length_append, List.length_cons] at hfuel
    have htext : value ++ (',' :: gap ++ first ++ more) ++ after ++ ']' :: rest =
        value ++ ',' :: (gap ++ (first ++ more ++ after ++ ']' :: rest)) := by
      simp only [List.append_assoc, List.cons_append]
    have hread := hvalue.reads fuel (',' :: (gap ++ (first ++ more ++ after ++ ']' :: rest)))
      (by omega) (stops_comma _)
    have hmore : readItems fuel (skipBlanks (gap ++ (first ++ more ++ after ++ ']' :: rest))) =
        some (v :: vs, rest) := by
      rw [skipBlanks_append hgap, List.append_assoc, List.append_assoc, hv.skipBlanks_append,
        ← List.append_assoc, ← List.append_assoc]
      exact hvs.reads fuel rest hv hafter (by omega)
    rw [htext]
    exact readItems_more hread (skipBlanks_cons rfl _) hmore

lemma faithful_list {more : List Char} (hl : l.Blank) (depth : Nat) (hv : Faithful v first)
    (hvs : FaithfulItems vs more) : Faithful (.list (v :: vs))
      ('[' :: l.newLine (depth + 1) ++ first ++ more ++ l.newLine depth ++ [']']) := by
  have hbefore := hl.newLine (depth + 1)
  have hafter := hl.newLine depth
  constructor
  · simp only [List.cons_append, List.forall_mem_cons, List.forall_mem_append]
    exact ⟨by decide, ⟨⟨⟨ascii_of_blanks hbefore, hv.ascii⟩, hvs.ascii⟩, ascii_of_blanks hafter⟩,
      by decide, List.forall_mem_nil _⟩
  · exact .list (hvs.valid hbefore hv.valid hafter)
  · exact ⟨_, _, rfl, rfl, by decide, by decide⟩
  · intro fuel rest hfuel _
    obtain ⟨fuel, rfl⟩ := Nat.exists_eq_add_one.mpr (Nat.zero_lt_of_lt hfuel)
    simp only [List.length_append, List.length_cons] at hfuel
    have hread := hvs.reads fuel rest hv hafter (by omega)
    have htext : '[' :: l.newLine (depth + 1) ++ first ++ more ++ l.newLine depth ++ [']'] ++ rest =
        '[' :: (l.newLine (depth + 1) ++ (first ++ more ++ l.newLine depth ++ ']' :: rest)) := by
      simp only [List.append_assoc, List.cons_append, List.nil_append]
    obtain ⟨c, s, rfl, hc, hclose, -⟩ := hv.starts
    rw [htext]
    exact readValue_list ((skipBlanks_append hbefore _).trans (skipBlanks_cons hc _)) hclose hread

/-! ### Maps -/

lemma faithful_noFields : Faithful (.map []) ['\x7b', '\x7d'] where
  ascii := List.all_iff_forall_prop.mp (by decide)
  valid := .noFields blanks_nil
  starts := ⟨_, _, rfl, rfl, by decide, by decide⟩
  reads fuel rest hfuel _ := by
    obtain ⟨fuel, rfl⟩ := Nat.exists_eq_add_one.mpr (Nat.zero_lt_of_lt hfuel)
    rfl

lemma readText_writeText (name : String) (s : List Char) :
    readText ((writeText name).tail ++ s) = some (name, s) := by
  rw [writeText_eq, List.cons_append, List.tail_cons, List.append_assoc]
  exact readText_flatMap name s

lemma readFields_last {fuel : Nat} {after : List Char} (name : String)
    (hv : readValue fuel s = some (v, rest)) (hs : skipBlanks s = s)
    (hrest : skipBlanks rest = '\x7d' :: after) :
    readFields (fuel + 1) (writeText name ++ ':' :: ' ' :: s) = some ([(name, v)], after) := by
  have hname := readText_writeText name (':' :: ' ' :: s)
  have hspace : skipBlanks (' ' :: s) = s := (skipBlanks_append blanks_space s).trans hs
  change readFields (fuel + 1) ('"' :: ((writeText name).tail ++ ':' :: ' ' :: s)) = _
  simp only [readFields, hname, skipBlanks_cons, show isBlank ':' = false from rfl, hspace, hv, hrest,
    Option.bind_eq_bind, Option.bind_some]

lemma readFields_more {fuel : Nat} {more after : List Char} (name : String)
    (hv : readValue fuel s = some (v, rest)) (hs : skipBlanks s = s)
    (hrest : skipBlanks rest = ',' :: more)
    (hmore : readFields fuel (skipBlanks more) = some (fields, after)) :
    readFields (fuel + 1) (writeText name ++ ':' :: ' ' :: s) =
      some ((name, v) :: fields, after) := by
  have hname := readText_writeText name (':' :: ' ' :: s)
  have hspace : skipBlanks (' ' :: s) = s := (skipBlanks_append blanks_space s).trans hs
  change readFields (fuel + 1) ('"' :: ((writeText name).tail ++ ':' :: ' ' :: s)) = _
  simp only [readFields, hname, skipBlanks_cons, show isBlank ':' = false from rfl, hspace, hv, hrest,
    hmore, Option.bind_eq_bind, Option.bind_some]

lemma putField_append (hname : name ∉ fields.map Prod.fst) :
    putField fields name v = fields ++ [(name, v)] := by
  induction fields with
  | nil => rfl
  | cons f fields ih =>
    rw [List.map_cons, List.mem_cons, not_or] at hname
    unfold putField
    rw [if_neg (Ne.symm hname.1), ih hname.2]
    rfl

lemma foldl_putField (before fields : List (String × Value))
    (h : ((before ++ fields).map Prod.fst).Nodup) :
    fields.foldl (fun fields f => putField fields f.1 f.2) before = before ++ fields := by
  induction fields generalizing before with
  | nil => exact (List.append_nil before).symm
  | cons f fields ih =>
    have hsplit : before ++ f :: fields = before ++ [f] ++ fields := List.append_cons before f fields
    have hname : f.1 ∉ before.map Prod.fst := by
      rw [List.map_append, List.map_cons, List.nodup_append] at h
      intro hmem
      exact h.2.2 f.1 hmem f.1 List.mem_cons_self rfl
    rw [List.foldl_cons, putField_append hname, ih, ← hsplit]
    rwa [← hsplit]

lemma readValue_map {fuel : Nat} {after : List Char} (hs : skipBlanks s = c :: rest)
    (hc : c ≠ '\x7d') (hfields : readFields fuel (c :: rest) = some (fields, after))
    (hnames : (fields.map Prod.fst).Nodup) :
    readValue (fuel + 1) ('\x7b' :: s) = some (.map fields, after) := by
  have hread : readValue (fuel + 1) ('\x7b' :: s) = (readFields fuel (skipBlanks s)).map fun p =>
      (.map (p.1.foldl (fun fields f => putField fields f.1 f.2) []), p.2) := by
    rw [readValue]
    split
    · rename_i heq
      rw [hs] at heq
      exact absurd (List.cons.inj heq).1 hc
    · rfl
  rw [hread, hs, hfields]
  change some (Value.map (fields.foldl _ []), after) = _
  rw [foldl_putField [] fields hnames]
  rfl

lemma isField_named {before after : List Char} (name : String) (hbefore : Blanks before)
    (hfirst : IsValue first) (hafter : Blanks after) :
    IsField (before ++ writeText name ++ ':' :: ' ' :: first ++ after) := by
  have h := IsField.named hbefore (characters_flatMap name.toList) blanks_nil
    (.padded blanks_space hfirst hafter)
  simpa only [writeText_eq, List.append_assoc, List.cons_append, List.nil_append] using h

lemma faithfulFields_nil : FaithfulFields [] [] where
  ascii := List.forall_mem_nil _
  valid name hbefore hfirst hafter := by
    rw [List.append_nil]
    exact .last (isField_named name hbefore hfirst hafter)
  reads {v first after} name fuel rest hfirst hafter hfuel := by
    obtain ⟨fuel, rfl⟩ := Nat.exists_eq_add_one.mpr (Nat.zero_lt_of_lt hfuel)
    have hread := hfirst.reads fuel (after ++ '\x7d' :: rest) (by omega)
      (stops_blanks hafter (.inr rfl) rest)
    have htext : writeText name ++ ':' :: ' ' :: first ++ [] ++ after ++ '\x7d' :: rest =
        writeText name ++ ':' :: ' ' :: (first ++ (after ++ '\x7d' :: rest)) := by
      simp only [List.append_assoc, List.cons_append, List.nil_append]
    rw [htext]
    exact readFields_last name hread (hfirst.skipBlanks_append _) (skipBlanks_append hafter _)

lemma faithfulFields_cons {more : List Char} (hl : l.Blank) (depth : Nat) (hv : Faithful v first)
    (hfields : FaithfulFields fields more) : FaithfulFields ((name, v) :: fields)
      (l.comma depth ++ writeText name ++ ':' :: ' ' :: first ++ more) := by
  obtain ⟨gap, hgap, hcomma⟩ := hl.comma depth
  rw [hcomma]
  constructor
  · simp only [List.cons_append, List.forall_mem_cons, List.forall_mem_append]
    exact ⟨by decide, ⟨⟨ascii_of_blanks hgap, ascii_writeText name⟩, by decide, by decide, hv.ascii⟩,
      hfields.ascii⟩
  · intro before value after other hbefore hvalue hafter
    have hrest := hfields.valid name hgap hv.valid hafter
    have h := IsFields.more (isField_named other hbefore hvalue blanks_nil) hrest
    simpa only [List.append_assoc, List.cons_append, List.nil_append] using h
  · intro w value after other fuel rest hvalue hafter hfuel
    obtain ⟨fuel, rfl⟩ := Nat.exists_eq_add_one.mpr (Nat.zero_lt_of_lt hfuel)
    simp only [List.length_append, List.length_cons] at hfuel
    have htext : writeText other ++ ':' :: ' ' :: value ++
          (',' :: gap ++ writeText name ++ ':' :: ' ' :: first ++ more) ++ after ++ '\x7d' :: rest =
        writeText other ++ ':' :: ' ' :: (value ++ ',' :: (gap ++
          (writeText name ++ ':' :: ' ' :: first ++ more ++ after ++ '\x7d' :: rest))) := by
      simp only [List.append_assoc, List.cons_append]
    have hread := hvalue.reads fuel (',' :: (gap ++
      (writeText name ++ ':' :: ' ' :: first ++ more ++ after ++ '\x7d' :: rest))) (by omega)
      (stops_comma _)
    have hmore : readFields fuel (skipBlanks (gap ++
        (writeText name ++ ':' :: ' ' :: first ++ more ++ after ++ '\x7d' :: rest))) =
          some ((name, v) :: fields, rest) := by
      rw [skipBlanks_append hgap]
      exact hfields.reads name fuel rest hv hafter (by omega)
    rw [htext]
    exact readFields_more other hread (hvalue.skipBlanks_append _) (skipBlanks_cons rfl _) hmore

lemma faithful_map {more : List Char} (hl : l.Blank) (depth : Nat) (hv : Faithful v first)
    (hfields : FaithfulFields fields more) (hnames : (name :: fields.map Prod.fst).Nodup) :
    Faithful (.map ((name, v) :: fields)) ('\x7b' :: l.newLine (depth + 1) ++ writeText name ++
      ':' :: ' ' :: first ++ more ++ l.newLine depth ++ ['\x7d']) := by
  have hbefore := hl.newLine (depth + 1)
  have hafter := hl.newLine depth
  constructor
  · simp only [List.cons_append, List.forall_mem_cons, List.forall_mem_append]
    exact ⟨by decide, ⟨⟨⟨⟨ascii_of_blanks hbefore, ascii_writeText name⟩, by decide, by decide,
      hv.ascii⟩, hfields.ascii⟩, ascii_of_blanks hafter⟩, by decide, List.forall_mem_nil _⟩
  · exact .map (hfields.valid name hbefore hv.valid hafter)
  · exact ⟨_, _, rfl, rfl, by decide, by decide⟩
  · intro fuel rest hfuel _
    obtain ⟨fuel, rfl⟩ := Nat.exists_eq_add_one.mpr (Nat.zero_lt_of_lt hfuel)
    simp only [List.length_append, List.length_cons] at hfuel
    have hread := hfields.reads name fuel rest hv hafter (by omega)
    have htext : '\x7b' :: l.newLine (depth + 1) ++ writeText name ++ ':' :: ' ' :: first ++ more ++
          l.newLine depth ++ ['\x7d'] ++ rest =
        '\x7b' :: (l.newLine (depth + 1) ++ (writeText name ++ ':' :: ' ' :: first ++ more ++
          l.newLine depth ++ '\x7d' :: rest)) := by
      simp only [List.append_assoc, List.cons_append, List.nil_append]
    rw [htext]
    exact readValue_map ((skipBlanks_append hbefore _).trans (skipBlanks_cons rfl _)) (by decide)
      hread hnames

end Json

end TickWalk
