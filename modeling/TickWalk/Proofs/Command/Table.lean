import TickWalk.Command.Run
import TickWalk.Proofs.Decimal.Digits
import TickWalk.Proofs.Document
import TickWalk.Proofs.Pool.Price
import TickWalk.Proofs.Table

/-!
# What tables of records show

A table of records has a row for each of them, and every cell but that of the price is the field of the
record. The prices are shown with their eight digits only if all of them are whole numbers: one that is
not makes the column one of six digits. Which records lose digits of their prices depends on the ticks of
all of them. An integer that is too long to be written leaves no table at all, only its title.
-/

namespace TickWalk

namespace Table

open Decimal Scientific

/-! ### Texts without blanks -/

lemma plain_of_numeral {s : String} (h : ∀ c ∈ s.toList, Numeral c) : Plain s := by
  intro c hc
  rcases h c hc with hdigit | hmark
  · obtain ⟨hlow, hhigh⟩ := Text.toNat_of_isDigit hdigit
    refine ⟨Text.isBlank_of_toNat (by omega) (by omega) ?_, ?_⟩
    · rintro rfl
      exact absurd hlow (by decide)
    · rintro rfl
      exact absurd hhigh (by decide)
  · simp only [List.mem_cons, List.not_mem_nil, or_false] at hmark
    rcases hmark with rfl | rfl | rfl | rfl | rfl <;> decide

lemma plain_of_all {s : String} (h : (s.toList.all fun c => !Text.isBlank c && c != '|') = true) :
    Plain s := by
  intro c hc
  have hplain := List.all_eq_true.mp h c hc
  rwa [Bool.and_eq_true, Bool.not_eq_true', bne_iff_ne] at hplain

lemma plain_toString (i : Int) : Plain (toString i) := by
  apply plain_of_numeral
  rw [← Text.ofList_writeInteger, String.toList_ofList]
  intro c hc
  unfold Text.writeInteger at hc
  split at hc
  · rcases List.mem_cons.mp hc with rfl | hc
    · exact .inr (by decide)
    · exact .inl (Text.isDigit_of_mem_toDigits _ c hc)
  · exact .inl (Text.isDigit_of_mem_toDigits _ c hc)

/-! ### Whole numbers -/

lemma isInteger_of_isDigit {ds : List Char} (hne : ds ≠ []) (h : ∀ c ∈ ds, c.isDigit = true) :
    isInteger (String.ofList ds) = true := by
  have hall : (!ds.isEmpty && ds.all Char.isDigit) = true := by
    rw [Bool.and_eq_true, Bool.not_eq_true', List.isEmpty_eq_false_iff, List.all_eq_true]
    exact ⟨hne, h⟩
  unfold isInteger
  rw [String.toList_ofList]
  split
  · exact absurd (h '-' List.mem_cons_self) (by decide)
  · exact hall

lemma isInteger_of_mem {s : String} {c : Char} (hc : c ∈ s.toList) (hdigit : c.isDigit = false)
    (hsign : c ≠ '-') : isInteger s = false := by
  have hall (ds : List Char) (hmem : c ∈ ds) : (!ds.isEmpty && ds.all Char.isDigit) = false := by
    rw [Bool.and_eq_false_iff, List.all_eq_false]
    exact .inr ⟨c, hmem, by rw [hdigit]; exact Bool.false_ne_true⟩
  unfold isInteger
  split
  · rename_i ds heq
    rw [heq] at hc
    exact hall ds ((List.mem_cons.mp hc).resolve_left hsign)
  · exact hall _ hc

lemma isInteger_general (p : Nat) (x : Scaled) :
    isInteger (x.general p) = true ↔ (x.roundTo p).exponent = 0 := by
  have hdigit := Text.isDigit_of_mem_toDigits (x.roundTo p).coefficient
  have hpos := digitCount_pos (x.roundTo p).coefficient
  unfold Scaled.general
  dsimp only
  split
  · rename_i hsize
    have hmark : isInteger (String.ofList (x.roundTo p).withExponent) = false := by
      refine isInteger_of_mem (c := 'e') ?_ (by decide) (by decide)
      rw [String.toList_ofList]
      exact List.mem_append_right _ List.mem_cons_self
    rw [Bool.or_eq_true, decide_eq_true_eq, decide_eq_true_eq, Scaled.adjusted] at hsize
    rw [hmark]
    exact iff_of_false Bool.false_ne_true (by omega)
  · rename_i hsize
    rw [Bool.or_eq_true, decide_eq_true_eq, not_or] at hsize
    have hpoint (before after : List Char) :
        isInteger (String.ofList (before ++ '.' :: after)) = false := by
      refine isInteger_of_mem (c := '.') ?_ (by decide) (by decide)
      rw [String.toList_ofList]
      exact List.mem_append_right _ List.mem_cons_self
    unfold Scaled.inFull
    dsimp only
    split
    · exact iff_of_true (isInteger_of_isDigit Nat.toDigits_ne_nil hdigit) (by omega)
    · split
      · rw [hpoint]
        exact iff_of_false Bool.false_ne_true (by omega)
      · rw [show '0' :: '.' :: List.replicate _ '0' ++ _ =
          ['0'] ++ '.' :: (List.replicate _ '0' ++ _) from rfl, hpoint]
        exact iff_of_false Bool.false_ne_true (by omega)

/-! ### Columns of integers -/

lemma Column.ofIntegers_of_short {values : List Int} (h : ∀ i ∈ values, Text.Short i)
    (heading : String) : ofIntegers heading values = .ok ⟨heading, values.map toString, true⟩ := by
  have hcells : values.mapM Value.integerText = .ok (values.map toString) := by
    rw [mapM_eq_ok_iff, List.forall₂_map_right_iff, List.forall₂_same]
    intro i hi
    rw [Value.integerText_of_short (h i hi), Text.ofList_writeInteger]
  rw [ofIntegers, hcells]
  rfl

lemma Column.eq_tooManyDigits_of_ofIntegers {values : List Int} {heading : String} {e : Failure}
    (h : ofIntegers heading values = .error e) : e = .tooManyDigits none := by
  rcases error_or_of_bind_error h with hcells | ⟨cells, -, h⟩
  · obtain ⟨i, -, hi⟩ := exists_of_mapM_error hcells
    by_cases hshort : Text.Short i
    · cases (Value.integerText_of_short hshort).symm.trans hi
    · exact Except.error.inj (hi.symm.trans (Value.integerText_of_not_short hshort))
  · cases h

lemma Column.short_of_ofIntegers {values : List Int} {heading : String} {c : Column}
    (h : ofIntegers heading values = .ok c) : ∀ i ∈ values, Text.Short i := by
  obtain ⟨cells, hcells, -⟩ := exists_of_bind_ok h
  rw [mapM_eq_ok_iff] at hcells
  clear h
  induction hcells with
  | nil => exact List.forall_mem_nil _
  | cons hs _ ih => exact List.forall_mem_cons.mpr ⟨Value.short_of_integerText hs, ih⟩

end Table

lemma KeyDomain.short_of_strictlyInside {t : Int} (h : ticks.strictlyInside t = true) : Text.Short t := by
  rw [strictlyInside, Bool.and_eq_true, decide_eq_true_eq, decide_eq_true_eq] at h
  have hbounds : -887272 < t ∧ t < 887272 := h
  have hsmall : t.natAbs < Nat.pow 10 6 := by
    change t.natAbs < 1000000
    omega
  exact Text.short_of_lt (by decide) (by decide) hsmall

namespace Command

open Decimal Scientific

variable {records : List TickRecord}

/-! ### The rows of a table -/

/-- The ticks with prices that are shown as whole numbers of eight digits, or as one. -/
def WholePrice (tick : Int) : Prop := tick = 0 ∨ 161190 ≤ tick ∧ tick ≤ 184216

def priceText (records : List TickRecord) (tick : Int) : String :=
  if (records.map fun r => Price.shown r.tick).all Table.isInteger then Price.shown tick
  else Table.sixDigits (Price.shown tick)

lemma priceText_of_all (h : (records.map fun r => Price.shown r.tick).all Table.isInteger = true) :
    priceText records = Price.shown := by
  funext tick
  exact if_pos h

lemma priceText_of_not_all (h : ¬ (records.map fun r => Price.shown r.tick).all Table.isInteger = true) :
    priceText records = fun tick => Table.sixDigits (Price.shown tick) := by
  funext tick
  exact if_neg h

def rowTexts (r : TickRecord) (price : String) : List String :=
  [toString r.tick, if r.initialized then "True" else "False", toString r.gross, toString r.net, price]

/-- The lines are a title and a table with a row for each record, in their order. From the line of a row
the fields of its record are read and a price that is as it should be. -/
def Lists (title : String) (records : List TickRecord) (good : Int → String → Prop)
    (lines : List String) : Prop :=
  ∃ (top headings under rule : String) (rows : List String),
    lines = title :: top :: headings :: under :: rows.flatMap (fun row => [row, rule]) ∧
    List.Forall₂ (fun r row => ∃ price, Table.cellsOf row = rowTexts r price ∧ good r.tick price)
      records rows

lemma exists_recordTable (hdomain : ∀ r ∈ records, KeyDomain.ticks.strictlyInside r.tick = true)
    (hamounts : ∀ r ∈ records, r.Writable) :
    ∃ (top headings under rule : String) (cells : TickRecord → List String),
      recordTable records = .ok
        (top :: headings :: under :: records.flatMap (fun r => [Table.row (cells r), rule])) ∧
      ∀ r, List.Forall₂ Table.Shows (rowTexts r (priceText records r.tick)) (cells r) := by
  have hprices : (Table.Column.ofDecimals "Price (raw)" (records.map fun r => Price.shown r.tick)).cells =
      records.map fun r => priceText records r.tick := by
    by_cases hall : (records.map fun r => Price.shown r.tick).all Table.isInteger = true
    · rw [Table.Column.ofDecimals, if_pos hall, priceText_of_all hall]
    · rw [Table.Column.ofDecimals, if_neg hall, priceText_of_not_all hall, List.map_map,
        Function.comp_def]
  have hintegers {f : TickRecord → Int} (hf : ∀ r ∈ records, Text.Short (f r)) (heading : String) :
      Table.Column.ofIntegers heading (records.map f) =
        .ok ⟨heading, (records.map f).map toString, true⟩ :=
    Table.Column.ofIntegers_of_short (List.forall_mem_map.mpr hf) heading
  have hcolumns : List.Forall₂ (fun (c : Table.Column) f => c.cells = records.map f) [
      ⟨"Tick", (records.map (·.tick)).map toString, true⟩,
      .ofTruths "Initialized" (records.map (·.initialized)),
      ⟨"Liquidity Gross", (records.map (·.gross)).map toString, true⟩,
      ⟨"Liquidity Net", (records.map (·.net)).map toString, true⟩,
      .ofDecimals "Price (raw)" (records.map fun r => Price.shown r.tick)] [
        fun r => toString r.tick, fun r => if r.initialized then "True" else "False",
        fun r => toString r.gross, fun r => toString r.net, fun r => priceText records r.tick] :=
    .cons List.map_map <| .cons List.map_map <| .cons List.map_map <| .cons List.map_map <|
      .cons hprices .nil
  obtain ⟨top, headings, under, rule, cells, hgrid, hcells⟩ := Table.exists_grid hcolumns
  refine ⟨top, headings, under, rule, cells, ?_, hcells⟩
  unfold recordTable
  rw [hintegers fun r hr => KeyDomain.short_of_strictlyInside (hdomain r hr), ok_bind,
    hintegers fun r hr => (hamounts r hr).1, ok_bind, hintegers fun r hr => (hamounts r hr).2, ok_bind,
    hgrid]

lemma writable_of_recordTable {lines : List String} (h : recordTable records = .ok lines) :
    ∀ r ∈ records, r.Writable := by
  obtain ⟨_, -, h⟩ := exists_of_bind_ok h
  obtain ⟨_, hgross, h⟩ := exists_of_bind_ok h
  obtain ⟨_, hnet, -⟩ := exists_of_bind_ok h
  have hgross := List.forall_mem_map.mp (Table.Column.short_of_ofIntegers hgross)
  have hnet := List.forall_mem_map.mp (Table.Column.short_of_ofIntegers hnet)
  exact fun r hr => ⟨hgross r hr, hnet r hr⟩

lemma recordTable_of_not_writable (h : ¬ ∀ r ∈ records, r.Writable) :
    recordTable records = .error (.tooManyDigits none) := by
  cases htable : recordTable records with
  | ok lines => exact absurd (writable_of_recordTable htable) h
  | error e =>
    rcases error_or_of_bind_error htable with hticks | ⟨_, -, htable⟩
    · rw [Table.Column.eq_tooManyDigits_of_ofIntegers hticks]
    · rcases error_or_of_bind_error htable with hgross | ⟨_, -, htable⟩
      · rw [Table.Column.eq_tooManyDigits_of_ofIntegers hgross]
      · rcases error_or_of_bind_error htable with hnet | ⟨_, -, htable⟩
        · rw [Table.Column.eq_tooManyDigits_of_ofIntegers hnet]
        · cases htable

lemma rows_eq_of_flatMap {rows rows' : List String} {rule rule' : String}
    (h : rows.flatMap (fun row => [row, rule]) = rows'.flatMap fun row => [row, rule']) :
    rows = rows' := by
  induction rows generalizing rows' with
  | nil =>
    cases rows' with
    | nil => rfl
    | cons _ _ => cases h
  | cons row rest ih =>
    cases rows' with
    | nil => cases h
    | cons row' rest' =>
      rw [List.flatMap_cons, List.flatMap_cons] at h
      obtain ⟨hrow, h⟩ := List.cons.inj h
      rw [hrow, ih (List.cons.inj h).2]

lemma cellsOf_rowTexts {r : TickRecord} {price : String} {cells : List String}
    (h : List.Forall₂ Table.Shows (rowTexts r price) cells) (hprice : Table.Plain price) :
    Table.cellsOf (Table.row cells) = rowTexts r price := by
  refine Table.cellsOf_row h (List.cons_ne_nil _ _) ?_
  have htruth : Table.Plain (if r.initialized then "True" else "False") := by
    cases r.initialized
    · exact Table.plain_of_all (by decide)
    · exact Table.plain_of_all (by decide)
  simp only [rowTexts, List.forall_mem_cons]
  exact ⟨Table.plain_toString _, htruth, Table.plain_toString _, Table.plain_toString _, hprice,
    List.forall_mem_nil _⟩

/-! ### The texts of prices -/

lemma all_isInteger_iff (records : List TickRecord) :
    (records.map fun r => Price.shown r.tick).all Table.isInteger = true ↔
      ∀ r ∈ records, WholePrice r.tick := by
  simp only [List.all_map, List.all_eq_true, Function.comp_apply]
  refine forall₂_congr fun r _ => ?_
  exact (Table.isInteger_general 8 (Price.ofTick r.tick)).trans (Price.exponent_shown_eq_zero_iff r.tick)

/-- The price to eight digits. -/
def shownValue (tick : Int) : ℚ := ((Price.ofTick tick).roundTo 8).value

lemma exists_read?_sixDigits {tick : Int} (h : KeyDomain.ticks.contains tick = true) :
    ∃ c e, read? (Table.sixDigits (Price.shown tick)).toList = some ⟨false, c, e⟩ ∧ c < 10 ^ 6 ∧
      |(c : ℚ) * 10 ^ e - shownValue tick| ≤ shownValue tick / 10 ^ 5 ∧
      ((c : ℚ) * 10 ^ e = shownValue tick ↔ OfDigits 6 (shownValue tick)) := by
  obtain ⟨hleast, hmost⟩ := Price.value_shown_mem h
  have hvalue := Scaled.value_written ((Price.ofTick tick).roundTo 8)
  unfold Table.sixDigits shownValue
  rw [Price.read?_shown]
  dsimp only
  rw [← hvalue] at hleast hmost ⊢
  exact exists_read?_nearest rfl hleast hmost

/-- A price that is shown with six digits is shown as it is only for the ticks zero and one. -/
lemma sixDigits_shown_eq_iff {tick : Int} (h : KeyDomain.ticks.contains tick = true) :
    Table.sixDigits (Price.shown tick) = Price.shown tick ↔ tick = 0 ∨ tick = 1 := by
  constructor
  · intro hsame
    by_contra hother
    rw [not_or] at hother
    obtain ⟨c, e, hread, hc, -⟩ := exists_read?_sixDigits h
    rw [hsame, Price.read?_shown] at hread
    have hdigits := (Price.coefficient_shown hother.1 hother.2).1
    obtain ⟨-, hcoefficient, -⟩ := Scientific.mk.inj (Option.some.inj hread)
    omega
  · unfold Price.shown
    rintro (rfl | rfl)
    · rw [Price.ofTick_zero]
      decide +kernel
    · rw [Price.ofTick_one]
      decide +kernel

def Denotes (text : String) (v : ℚ) : Prop := ∃ x, read? text.toList = some x ∧ x.value = v

lemma denotes_shown (tick : Int) : Denotes (Price.shown tick) (shownValue tick) :=
  ⟨_, Price.read?_shown tick, Scaled.value_written _⟩

lemma denotes_iff {text : String} {c : Nat} {e : Int} {v : ℚ}
    (h : read? text.toList = some ⟨false, c, e⟩) : Denotes text v ↔ (c : ℚ) * 10 ^ e = v := by
  have hvalue : Scientific.value ⟨false, c, e⟩ = c * 10 ^ e := by
    rw [Scientific.value, if_neg Bool.false_ne_true, one_mul]
  constructor
  · rintro ⟨x, hread, rfl⟩
    rw [h] at hread
    rw [← Option.some.inj hread, hvalue]
  · rintro rfl
    exact ⟨_, h, hvalue⟩

lemma plain_priceText (hdomain : ∀ r ∈ records, KeyDomain.ticks.strictlyInside r.tick = true) :
    ∀ r ∈ records, Table.Plain (priceText records r.tick) := by
  intro r hr
  unfold priceText
  split
  · exact Table.plain_of_numeral (numeral_of_read? (Price.read?_shown r.tick))
  · have hinside := KeyDomain.contains_of_strictlyInside (hdomain r hr)
    obtain ⟨c, e, hread, -⟩ := exists_read?_sixDigits hinside
    exact Table.plain_of_numeral (numeral_of_read? hread)

/-! ### Printing -/

/-- The lines are printed below whatever has been printed. -/
def PrintsLines (x : Action (List String) Unit) (lines : List String) : Prop :=
  ∀ printed, x.run printed = ⟨.ok (), printed ++ lines, []⟩

lemma printsLines_print (lines : List String) : PrintsLines (print lines) lines := fun _ => rfl

lemma PrintsLines.bind {x : Action (List String) Unit} {f : Unit → Action (List String) Unit}
    {lines more : List String} (hx : PrintsLines x lines) (hf : PrintsLines (f ()) more) :
    PrintsLines (x >>= f) (lines ++ more) := by
  intro printed
  rw [Action.run_bind_of_ok (hx printed), hf, List.append_assoc]
  rfl

lemma printsLines_nil (title : String) :
    PrintsLines (printRecords [] title) [title, "  (none found within domain)"] :=
  (printsLines_print [title]).bind (printsLines_print _)

lemma printsLines_of_recordTable {lines : List String} (hsome : records ≠ []) (title : String)
    (h : recordTable records = .ok lines) : PrintsLines (printRecords records title) (title :: lines) := by
  apply (printsLines_print [title]).bind
  rw [List.isEmpty_eq_false_iff.mpr hsome, if_neg Bool.false_ne_true, h]
  exact printsLines_print lines

/-- The title has been printed by then. -/
lemma run_printRecords_of_not_writable (h : ¬ ∀ r ∈ records, r.Writable) (title : String)
    (printed : List String) : (printRecords records title).run printed =
      ⟨.error (.tooManyDigits none), printed ++ [title], []⟩ := by
  have hsome : records ≠ [] := by
    rintro rfl
    exact h (List.forall_mem_nil _)
  unfold printRecords
  rw [Action.run_bind_of_ok (printsLines_print [title] printed), List.isEmpty_eq_false_iff.mpr hsome,
    if_neg Bool.false_ne_true, recordTable_of_not_writable h]
  rfl

/-- A title and a table are printed that list the records so. -/
def PrintsTable (title : String) (records : List TickRecord) (good : Int → String → Prop) : Prop :=
  ∃ lines, Lists title records good lines ∧ PrintsLines (printRecords records title) lines

lemma printsTable_iff {good : Int → String → Prop} (hsome : records ≠ [])
    (hdomain : ∀ r ∈ records, KeyDomain.ticks.strictlyInside r.tick = true) (title : String) :
    PrintsTable title records good ↔
      (∀ r ∈ records, r.Writable) ∧ ∀ r ∈ records, good r.tick (priceText records r.tick) := by
  by_cases hamounts : ∀ r ∈ records, r.Writable
  case neg =>
    refine iff_of_false ?_ fun h => hamounts h.1
    rintro ⟨lines, -, hprinted⟩
    have hrun := (run_printRecords_of_not_writable hamounts title []).symm.trans (hprinted [])
    cases congrArg Outcome.result hrun
  obtain ⟨top, headings, under, rule, cells, htable, hcells⟩ := exists_recordTable hdomain hamounts
  have hread : ∀ r ∈ records, Table.cellsOf (Table.row (cells r)) =
      rowTexts r (priceText records r.tick) := fun r hr =>
    cellsOf_rowTexts (hcells r) (plain_priceText hdomain r hr)
  have hown : records.flatMap (fun r => [Table.row (cells r), rule]) =
      (records.map fun r => Table.row (cells r)).flatMap fun row => [row, rule] := by
    rw [List.flatMap_map]
  have hprints := printsLines_of_recordTable hsome title htable
  rw [hown] at hprints
  rw [and_iff_right hamounts]
  constructor
  · rintro ⟨_, ⟨top', headings', under', rule', rows, rfl, hrows⟩, hprinted⟩
    have heq := (hprints []).symm.trans (hprinted [])
    simp only [Outcome.mk.injEq, List.nil_append, List.cons.injEq, true_and, and_true] at heq
    obtain ⟨-, -, -, heq⟩ := heq
    rw [← rows_eq_of_flatMap heq, List.forall₂_map_right_iff, List.forall₂_same] at hrows
    intro r hr
    obtain ⟨price, hprice, hgood⟩ := hrows r hr
    rw [hread r hr] at hprice
    have hsame : priceText records r.tick = price := by
      simp only [rowTexts, List.cons.injEq] at hprice
      exact hprice.2.2.2.2.1
    rw [hsame]
    exact hgood
  · intro hgood
    refine ⟨_, ⟨top, headings, under, rule, _, rfl, ?_⟩, hprints⟩
    rw [List.forall₂_map_right_iff, List.forall₂_same]
    exact fun r hr => ⟨_, hread r hr, hgood r hr⟩

/-! ### The prices of a table -/

/-- Records are printed in a table exactly if their amounts can be written; if one cannot, nothing but the
title is printed. The table has a row for each record from which all fields are read as they are, and a
price that is right to a part in a hundred thousand. The texts of the prices are those with eight digits
exactly if all prices are whole numbers, or if all are those of the ticks zero and one. They are the
numbers of eight digits exactly if all prices are whole numbers, or if none needs more than six digits. -/
theorem prices_of_table_iff (hsome : records ≠ [])
    (hdomain : ∀ r ∈ records, KeyDomain.ticks.strictlyInside r.tick = true) (title : String) :
    ((¬ ∀ r ∈ records, r.Writable) → ∀ printed, (printRecords records title).run printed =
      ⟨.error (.tooManyDigits none), printed ++ [title], []⟩) ∧
    (PrintsTable title records (fun tick price => ∃ v, Denotes price v ∧
        |v - shownValue tick| ≤ shownValue tick / 10 ^ 5) ↔
      ∀ r ∈ records, r.Writable) ∧
    (PrintsTable title records (fun tick price => price = Price.shown tick) ↔
      (∀ r ∈ records, r.Writable) ∧
        ((∀ r ∈ records, WholePrice r.tick) ∨ ∀ r ∈ records, r.tick = 0 ∨ r.tick = 1)) ∧
    (PrintsTable title records (fun tick price => Denotes price (shownValue tick)) ↔
      (∀ r ∈ records, r.Writable) ∧
        ((∀ r ∈ records, WholePrice r.tick) ∨ ∀ r ∈ records, OfDigits 6 (shownValue r.tick))) := by
  rw [printsTable_iff hsome hdomain, printsTable_iff hsome hdomain, printsTable_iff hsome hdomain,
    and_congr_right_iff, and_congr_right_iff]
  refine ⟨fun hlong => run_printRecords_of_not_writable hlong title, ?_⟩
  by_cases hwhole : ∀ r ∈ records, WholePrice r.tick
  · rw [priceText_of_all ((all_isInteger_iff records).mpr hwhole)]
    refine ⟨and_iff_left fun r _ => ⟨_, denotes_shown r.tick, ?_⟩,
      fun _ => iff_of_true (fun _ _ => rfl) (.inl hwhole),
      fun _ => iff_of_true (fun r _ => denotes_shown r.tick) (.inl hwhole)⟩
    rw [sub_self, abs_zero]
    exact div_nonneg (Scaled.value_nonneg _) (by norm_num)
  · rw [priceText_of_not_all (mt (all_isInteger_iff records).mp hwhole), or_iff_right hwhole,
      or_iff_right hwhole]
    refine ⟨and_iff_left ?_, fun _ => forall₂_congr fun r hr => ?_,
      fun _ => forall₂_congr fun r hr => ?_⟩
    · intro r hr
      obtain ⟨c, e, hread, -, hnear, -⟩ :=
        exists_read?_sixDigits (KeyDomain.contains_of_strictlyInside (hdomain r hr))
      exact ⟨_, (denotes_iff hread).mpr rfl, hnear⟩
    · exact sixDigits_shown_eq_iff (KeyDomain.contains_of_strictlyInside (hdomain r hr))
    · obtain ⟨c, e, hread, -, -, hiff⟩ :=
        exists_read?_sixDigits (KeyDomain.contains_of_strictlyInside (hdomain r hr))
      exact (denotes_iff hread).trans hiff

theorem prices_of_table_of_whole :
    [(⟨true, 170000, 5, 5⟩ : TickRecord), ⟨true, 0, 5, -5⟩] ≠ [] ∧
    (∀ r ∈ [(⟨true, 170000, 5, 5⟩ : TickRecord), ⟨true, 0, 5, -5⟩],
      KeyDomain.ticks.strictlyInside r.tick = true) ∧
    PrintsTable "ticks" [⟨true, 170000, 5, 5⟩, ⟨true, 0, 5, -5⟩]
      (fun tick price => price = Price.shown tick) := by
  have hamounts : ∀ r ∈ [(⟨true, 170000, 5, 5⟩ : TickRecord), ⟨true, 0, 5, -5⟩], r.Writable := by
    unfold TickRecord.Writable
    decide
  refine ⟨by decide, by decide, ?_⟩
  apply (prices_of_table_iff (by decide) (by decide) "ticks").2.2.1.mpr
  exact ⟨hamounts, .inl (by unfold WholePrice; decide)⟩

/-- Of the eight digits of the price below one, the last four are lost. -/
theorem price_of_table_loses_digits :
    ¬ PrintsTable "ticks" [⟨true, -1, 5, 5⟩] (fun tick price => Denotes price (shownValue tick)) := by
  have hwhole : ¬ ∀ r ∈ [(⟨true, -1, 5, 5⟩ : TickRecord)], WholePrice r.tick := by
    unfold WholePrice
    decide
  have hprice : Price.ofTick (-1) = ⟨99990000999900009999000099990000999900009999000100, -50⟩ := by
    rw [Price.ofTick_eq, Price.unrounded, if_pos (by decide), Scaled.pow, if_pos (by decide),
      if_neg (by decide)]
    decide +kernel
  have hround : (Price.ofTick (-1)).roundTo 8 = ⟨99990001, -8⟩ := by
    rw [hprice]
    decide +kernel
  have hread : read? (Table.sixDigits (Price.shown (-1))).toList = some ⟨false, 9999, -4⟩ := by
    rw [Price.shown, hprice]
    decide +kernel
  rw [printsTable_iff (by decide) (by decide),
    priceText_of_not_all (mt (all_isInteger_iff _).mp hwhole), List.forall_mem_singleton,
    List.forall_mem_singleton, not_and]
  intro _
  dsimp only
  rw [denotes_iff hread, shownValue, hround, Scaled.value]
  norm_num

end Command

end TickWalk
