import TickWalk.Proofs.Document
import TickWalk.Proofs.Value.Conversion

/-!
# The canonical document of a result

A result has many documents. Its amounts may be numbers or text, with signs, blanks and underscores, or
truth values, or floats whose fraction is dropped; its direction may be left out, and fields that nobody
reads may be there. What the decoder makes of any of them is a result whose count fits its slots, so that
its views answer. The document of that result is the same for all of them, and stands for it.
-/

namespace TickWalk

namespace Value

mutual

def integers : Value → List Int
  | int i => [i]
  | list items => integersOfItems items
  | map fields => integersOfFields fields
  | _ => []

def integersOfItems : List Value → List Int
  | [] => []
  | v :: rest => integers v ++ integersOfItems rest

def integersOfFields : List (String × Value) → List Int
  | [] => []
  | (_, v) :: rest => integers v ++ integersOfFields rest

end

variable {v : Value}

lemma integers_subset_of_mem_items {items : List Value} (h : v ∈ items) :
    v.integers ⊆ (list items).integers := by
  induction items with
  | nil => cases h
  | cons w rest ih =>
    change v.integers ⊆ w.integers ++ (list rest).integers
    rcases List.mem_cons.mp h with rfl | h
    · exact List.subset_append_left _ _
    · exact List.subset_append_of_subset_right _ (ih h)

lemma integers_subset_of_mem_fields {fields : List (String × Value)} {name : String}
    (h : (name, v) ∈ fields) : v.integers ⊆ (map fields).integers := by
  induction fields with
  | nil => cases h
  | cons field rest ih =>
    change v.integers ⊆ field.2.integers ++ (map rest).integers
    rcases List.mem_cons.mp h with rfl | h
    · exact List.subset_append_left _ _
    · exact List.subset_append_of_subset_right _ (ih h)

lemma mem_of_field? {fields : List (String × Value)} {name : String}
    (h : field? fields name = some v) : (name, v) ∈ fields := by
  obtain ⟨⟨other, w⟩, hfind, rfl⟩ := Option.map_eq_some_iff.mp h
  have hname := List.find?_some hfind
  obtain rfl := beq_iff_eq.mp hname
  exact List.mem_reverse.mp (List.mem_of_find?_eq_some hfind)

lemma eq_list_of_items {items : List Value} {fields : List (String × Value)}
    (h : v.items = .ok items) (hmem : .map fields ∈ items) : v = .list items := by
  cases v with
  | list vs => exact congrArg _ (Except.ok.inj h)
  | text s =>
    obtain rfl := Except.ok.inj h
    obtain ⟨c, -, hc⟩ := List.mem_map.mp hmem
    cases hc
  | bytes b =>
    obtain rfl := Except.ok.inj h
    obtain ⟨x, -, hx⟩ := List.mem_map.mp hmem
    cases hx
  | buffer b =>
    obtain rfl := Except.ok.inj h
    obtain ⟨x, -, hx⟩ := List.mem_map.mp hmem
    cases hx
  | map fs =>
    obtain rfl := Except.ok.inj h
    obtain ⟨f, -, hf⟩ := List.mem_map.mp hmem
    cases hf
  | null => cases h
  | bool b => cases h
  | int i => cases h
  | float f => cases h

end Value

namespace Document

variable {data v : Value} {name : String}

lemma integers_subset_of_field (h : field data name = .ok v) : v.integers ⊆ data.integers := by
  obtain ⟨fields, rfl, hfield⟩ := field_eq_ok_iff.mp h
  exact Value.integers_subset_of_mem_fields (Value.mem_of_field? hfield)

lemma short_of_field {i : Int} (h : field data name = .ok v) (hi : v.toInteger = .ok i)
    (hshort : ∀ j ∈ data.integers, Text.Short j) : Text.Short i := by
  apply Value.short_of_toInteger hi
  rintro j rfl
  exact hshort j (integers_subset_of_field h (List.mem_singleton_self j))

/-- The document of the result that a document is read as. -/
def canonical (data : Value) : Except Failure Value := do (← ScanResult.ofDocument data).document

end Document

namespace TickRecord

variable {data : Value} {r : TickRecord}

lemma exists_of_ofDocument (h : ofDocument data = .ok r) :
    ∃ gross net, Document.field data "liquidityGross" = .ok gross ∧ gross.toInteger = .ok r.gross ∧
      Document.field data "liquidityNet" = .ok net ∧ net.toInteger = .ok r.net := by
  unfold ofDocument at h
  obtain ⟨flag, -, h⟩ := exists_of_bind_ok h
  obtain ⟨tick, -, h⟩ := exists_of_bind_ok h
  obtain ⟨t, -, h⟩ := exists_of_bind_ok h
  obtain ⟨gross, hgross, h⟩ := exists_of_bind_ok h
  obtain ⟨g, hg, h⟩ := exists_of_bind_ok h
  obtain ⟨net, hnet, h⟩ := exists_of_bind_ok h
  obtain ⟨n, hn, h⟩ := exists_of_bind_ok h
  obtain rfl := Except.ok.inj h
  exact ⟨gross, net, hgross, hg, hnet, hn⟩

lemma writable_of_ofDocument (h : ofDocument data = .ok r)
    (hshort : ∀ i ∈ data.integers, Text.Short i) : r.Writable := by
  obtain ⟨gross, net, hgross, hg, hnet, hn⟩ := exists_of_ofDocument h
  exact ⟨Document.short_of_field hgross hg hshort, Document.short_of_field hnet hn hshort⟩

end TickRecord

namespace ScanResult

variable {data : Value} {r : ScanResult}

/-! ### What the decoder accepts -/

lemma exists_of_ofDocument (h : ofDocument data = .ok r) :
    ∃ slots items validTo, Document.field data "ticks" = .ok slots ∧ slots.items = .ok items ∧
      items.mapM TickRecord.ofDocument = .ok r.ticks ∧
      Document.field data "validTo" = .ok validTo ∧ validTo.toInteger = .ok r.validTo ∧
      r.validTo ≤ r.ticks.length := by
  unfold ofDocument at h
  obtain ⟨slots, hslots, h⟩ := exists_of_bind_ok h
  obtain ⟨items, hitems, h⟩ := exists_of_bind_ok h
  obtain ⟨ticks, hticks, h⟩ := exists_of_bind_ok h
  obtain ⟨validTo, hfield, h⟩ := exists_of_bind_ok h
  obtain ⟨n, hn, h⟩ := exists_of_bind_ok h
  split at h
  · cases h
  · rename_i hinside
    obtain ⟨version, -, h⟩ := exists_of_bind_ok h
    obtain ⟨direction, -, h⟩ := exists_of_bind_ok h
    obtain rfl := Except.ok.inj h
    rw [Bool.or_eq_true, decide_eq_true_eq, decide_eq_true_eq] at hinside
    have hn' : ((n.toNat : Nat) : Int) = n := Int.toNat_of_nonneg (by omega)
    refine ⟨slots, items, validTo, hslots, hitems, hticks, hfield, hn.trans (congrArg _ hn'.symm), ?_⟩
    dsimp only
    omega

lemma validTo_le_of_ofDocument (h : ofDocument data = .ok r) : r.validTo ≤ r.ticks.length := by
  obtain ⟨-, -, -, -, -, -, -, -, hfits⟩ := exists_of_ofDocument h
  exact hfits

lemma writable_of_ofDocument (h : ofDocument data = .ok r)
    (hshort : ∀ i ∈ data.integers, Text.Short i) : ∀ record ∈ r.ticks, record.Writable := by
  obtain ⟨slots, items, -, hslots, hitems, hticks, -⟩ := exists_of_ofDocument h
  intro record hrecord
  obtain ⟨item, hitem, hread⟩ := exists_of_mem_mapM hticks record hrecord
  obtain ⟨gross, -, hgross, -⟩ := TickRecord.exists_of_ofDocument hread
  obtain ⟨fields, rfl, -⟩ := Document.field_eq_ok_iff.mp hgross
  obtain rfl := Value.eq_list_of_items hitems hitem
  have hsubset := List.Subset.trans (Value.integers_subset_of_mem_items hitem)
    (Document.integers_subset_of_field hslots)
  exact TickRecord.writable_of_ofDocument hread fun i hi => hshort i (hsubset hi)

/-! ### The views of a result that fits -/

lemma length_validTicks (h : r.validTo ≤ r.ticks.length) : r.validTicks.length = r.validTo := by
  unfold validTicks
  rw [List.length_take, Nat.min_eq_left h]

lemma validTicks_loose (h : r.validTo ≤ r.ticks.length) :
    r.loose.validTicks = .ok (r.validTicks.map TickRecord.loose) := by
  have hstop : upTo r.loose.ticks.length r.validTo = r.validTo := by
    unfold upTo loose
    rw [List.length_map, if_neg (by omega), Int.toNat_natCast, Nat.min_eq_right h]
  change Except.ok (r.loose.ticks.take (upTo r.loose.ticks.length r.validTo)) = _
  rw [hstop, validTicks, List.map_take]
  rfl

lemma placeOf?_natCast_sub_one {size n : Nat} (hpos : 0 < n) (hle : n ≤ size) :
    placeOf? size ((n : Int) - 1) = some (n - 1) := by
  have hindex : (if (n : Int) - 1 < 0 then (n : Int) - 1 + size else (n : Int) - 1) = (n - 1 : Nat) := by
    rw [if_neg (by omega)]
    omega
  have hinside : ((0 : Int) ≤ (n - 1 : Nat) && ((n - 1 : Nat) : Int) < size) = true := by
    rw [Bool.and_eq_true, decide_eq_true_eq, decide_eq_true_eq]
    omega
  unfold placeOf?
  rw [hindex]
  exact if_pos hinside

lemma lastTick_loose (h : r.validTo ≤ r.ticks.length) :
    r.loose.lastTick = .ok ((r.validTicks.getLast?.map fun record => .int record.tick).getD .null) := by
  have hsame : r.loose.validTo.same (.int 0) = ((r.validTo : Int) == 0) := Value.same_int _ _
  have hwhole : r.loose.validTo.whole? = some (r.validTo : Int) := rfl
  unfold LooseResult.lastTick
  rw [hsame, hwhole]
  by_cases hzero : r.validTo = 0
  · rw [if_pos (by simp [hzero]), validTicks, hzero, List.take_zero]
    rfl
  · have hpos : 0 < r.validTo := Nat.pos_of_ne_zero hzero
    have hplace : placeOf? r.loose.ticks.length ((r.validTo : Int) - 1) = some (r.validTo - 1) :=
      placeOf?_natCast_sub_one hpos (h.trans_eq (List.length_map _).symm)
    have hget : r.loose.ticks[r.validTo - 1]? = (r.validTicks.getLast?).map TickRecord.loose := by
      rw [List.getLast?_eq_getElem?, length_validTicks h, validTicks,
        List.getElem?_take_of_lt (by omega)]
      exact List.getElem?_map
    rw [if_neg (by simp [hzero])]
    dsimp only
    rw [hplace]
    dsimp only
    rw [hget]
    cases r.validTicks.getLast? with
    | none => rfl
    | some record => rfl

/-! ### One document for all spellings -/

lemma canonical_eq_document (h : ofDocument data = .ok r) : Document.canonical data = r.document := by
  unfold Document.canonical
  rw [h, ok_bind]

lemma ofDocument_document {canonical : Value} (hfits : r.validTo ≤ r.ticks.length)
    (h : r.document = .ok canonical) : ofDocument canonical = .ok r := by
  rw [ofDocument_of_document h, if_pos hfits]

/-- Documents have the same canonical document exactly when they are read as the same result. -/
lemma canonical_eq_ok_iff {canonical other : Value} {s : ScanResult} (h : ofDocument data = .ok r)
    (hcanonical : r.document = .ok canonical) (hother : ofDocument other = .ok s) :
    Document.canonical other = .ok canonical ↔ s = r := by
  rw [canonical_eq_document hother]
  constructor
  · intro heq
    have hr := ofDocument_document (validTo_le_of_ofDocument h) hcanonical
    have hs := ofDocument_document (validTo_le_of_ofDocument hother) heq
    exact Except.ok.inj (hs.symm.trans hr)
  · rintro rfl
    exact hcanonical

/-- What is read from a document counts no more filled slots than it has, none of them negative, and its
views answer. If the integers of the document are not too long, the result can be written. It comes back
in every field from what is written, which is its own canonical document and that of every other document
that is read as the same result, and of no other. -/
theorem decoded_result_is_canonical {data : Value} {r : ScanResult} (h : ofDocument data = .ok r) :
    (∃ validTo, Document.field data "validTo" = .ok validTo ∧ validTo.toInteger = .ok r.validTo) ∧
      r.validTo ≤ r.ticks.length ∧
      r.loose.validTicks = .ok (r.validTicks.map TickRecord.loose) ∧
      r.validTicks.length = r.validTo ∧
      r.loose.lastTick =
        .ok ((r.validTicks.getLast?.map fun record => .int record.tick).getD .null) ∧
      ((∀ i ∈ data.integers, Text.Short i) →
        ∃ canonical, r.document = .ok canonical ∧ ofDocument canonical = .ok r ∧
          Document.canonical data = .ok canonical ∧
          Document.canonical canonical = .ok canonical ∧
          ∀ other s, ofDocument other = .ok s →
            (Document.canonical other = .ok canonical ↔ s = r)) := by
  obtain ⟨-, -, validTo, -, -, -, hfield, hvalidTo, hfits⟩ := exists_of_ofDocument h
  refine ⟨⟨validTo, hfield, hvalidTo⟩, hfits, validTicks_loose hfits, length_validTicks hfits,
    lastTick_loose hfits, fun hshort => ?_⟩
  obtain ⟨canonical, hcanonical⟩ := exists_document_iff.mpr (writable_of_ofDocument h hshort)
  have hback : ofDocument canonical = .ok r := ofDocument_document hfits hcanonical
  refine ⟨canonical, hcanonical, hback, ?_, ?_, ?_⟩
  · exact (canonical_eq_ok_iff h hcanonical h).mpr rfl
  · exact (canonical_eq_ok_iff h hcanonical hback).mpr rfl
  · intro other s hother
    exact canonical_eq_ok_iff h hcanonical hother

/-- A document with amounts of every spelling, a field that nobody reads and no direction. -/
def mixedSpellings : Value := .map [
  ("note", .text "?"),
  ("ticks", .list [
    .map [("initialized", .int 1), ("tick", .text " -1_0\n"), ("liquidityGross", .float 2.5),
      ("liquidityNet", .text "+9007199254740993")],
    .map [("initialized", .null), ("tick", .bool false), ("liquidityGross", .bytes [0x37]),
      ("liquidityNet", .int (-9007199254740993))]]),
  ("validTo", .bool true), ("blockNumber", .int 7)]

theorem decoded_mixed_spellings_are_canonical :
    let r : ScanResult :=
      ⟨[⟨true, -10, 2, 9007199254740993⟩, ⟨false, 0, 7, -9007199254740993⟩], 1, .int 7, .exclusive⟩
    ofDocument mixedSpellings = .ok r ∧ r.loose.lastTick = .ok (.int (-10)) ∧
      ∃ canonical, r.document = .ok canonical ∧ ofDocument canonical = .ok r ∧
        Document.canonical mixedSpellings = .ok canonical ∧
        Document.canonical canonical = .ok canonical := by
  intro r
  have hread : ofDocument mixedSpellings = .ok r := by rfl
  have hshort : ∀ i ∈ mixedSpellings.integers, Text.Short i := by
    have hsmall : ∀ i ∈ mixedSpellings.integers, i.natAbs < Nat.pow 10 16 := by decide
    exact fun i hi => Text.short_of_lt (by decide) (by decide) (hsmall i hi)
  obtain ⟨-, -, -, -, hlast, hwritten⟩ := decoded_result_is_canonical hread
  obtain ⟨canonical, hcanonical, hback, hdata, hself, -⟩ := hwritten hshort
  exact ⟨hread, hlast, canonical, hcanonical, hback, hdata, hself⟩

end ScanResult

end TickWalk
