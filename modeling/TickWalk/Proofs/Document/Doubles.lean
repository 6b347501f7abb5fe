import TickWalk.Store.Snapshot
import TickWalk.Proofs.Decimal.Rounding
import TickWalk.Proofs.Document

/-!
# Documents read with doubles

A reader that has no integers but doubles takes every number of a document for the nearest double. The
amounts of liquidity come through it unharmed: those that are written as numbers are doubles, and the
others are written as text, which it does not round.
-/

namespace TickWalk

open Decimal

namespace Value

mutual

/-- A value as a reader with doubles has it: every integer in it, at any depth, is the nearest double. -/
def throughDoubles : Value → Value
  | int i => int (nearestDouble i)
  | list items => list (itemsThroughDoubles items)
  | map fields => map (fieldsThroughDoubles fields)
  | v => v

def itemsThroughDoubles : List Value → List Value
  | [] => []
  | v :: rest => throughDoubles v :: itemsThroughDoubles rest

def fieldsThroughDoubles : List (String × Value) → List (String × Value)
  | [] => []
  | (name, v) :: rest => (name, throughDoubles v) :: fieldsThroughDoubles rest

end

lemma throughDoubles_list (items : List Value) :
    (list items).throughDoubles = list (items.map throughDoubles) := by
  have hitems : itemsThroughDoubles items = items.map throughDoubles := by
    induction items with
    | nil => rfl
    | cons v rest ih => exact congrArg (throughDoubles v :: ·) ih
  exact congrArg list hitems

lemma throughDoubles_map (fields : List (String × Value)) :
    (map fields).throughDoubles = map (fields.map fun f => (f.1, f.2.throughDoubles)) := by
  have hfields : fieldsThroughDoubles fields = fields.map fun f => (f.1, f.2.throughDoubles) := by
    induction fields with
    | nil => rfl
    | cons f rest ih => exact congrArg ((f.1, f.2.throughDoubles) :: ·) ih
  exact congrArg map hfields

lemma field?_map (g : Value → Value) (fields : List (String × Value)) (name : String) :
    field? (fields.map fun f => (f.1, g f.2)) name = (field? fields name).map g := by
  unfold field?
  rw [← List.map_reverse, List.find?_map, Option.map_map, Option.map_map]
  rfl

end Value

namespace Document

variable {data v : Value} {name : String}

lemma field_throughDoubles (h : field data name = .ok v) :
    field data.throughDoubles name = .ok v.throughDoubles := by
  obtain ⟨fields, rfl, hfield⟩ := field_eq_ok_iff.mp h
  refine field_eq_ok_iff.mpr ⟨_, Value.throughDoubles_map fields, ?_⟩
  rw [Value.field?_map, hfield]
  rfl

/-- An amount as a document is to show it: a number up to the size of `2 ^ 53`, and decimal text beyond. -/
def shown (i : Int) : Value := if i.natAbs ≤ 2 ^ 53 then .int i else .text (toString i)

variable {i : Int}

lemma amount_eq_shown (h : Text.Short i) : amount (.int i) = .ok (shown i) := by
  have hsafe : safeInteger = 2 ^ 53 := rfl
  rw [amount_int, Value.integerText_of_short h, Text.ofList_writeInteger, hsafe, shown]
  by_cases hsmall : i.natAbs ≤ 2 ^ 53
  · rw [if_neg (Nat.not_lt.mpr hsmall), if_pos hsmall]
  · rw [if_pos (Nat.not_le.mp hsmall), if_neg hsmall]
    rfl

lemma shown_throughDoubles (i : Int) : (shown i).throughDoubles = shown i := by
  unfold shown
  by_cases hsmall : i.natAbs ≤ 2 ^ 53
  · rw [if_pos hsmall]
    exact congrArg Value.int (nearestDouble_of_natAbs_le hsmall)
  · rw [if_neg hsmall]
    rfl

def liquidity (data : Value) : Except Failure Liquidity := do
  let gross ← (← field data "liquidityGross").toInteger
  let net ← (← field data "liquidityNet").toInteger
  .ok ⟨gross, net⟩

/-- The liquidity of the records that a document has under a name. -/
def liquidities (data : Value) (name : String) : Except Failure (List Liquidity) := do
  (← (← field data name).items).mapM liquidity

/-- The document of a record shows this liquidity. -/
structure ShowsRecord (data : Value) (l : Liquidity) : Prop where
  gross : field data "liquidityGross" = .ok (shown l.gross)
  net : field data "liquidityNet" = .ok (shown l.net)

/-- A document shows these liquidities under a name, and a reader with doubles finds them there. -/
structure Tells (data : Value) (name : String) (held : List Liquidity) : Prop where
  shows : ∃ items, field data name = .ok (.list items) ∧ List.Forall₂ ShowsRecord items held
  survives : liquidities data.throughDoubles name = .ok held

end Document

/-- A record has integers for its liquidity, which are not too long to be written. -/
structure LooseRecord.Holds (r : LooseRecord) (l : Liquidity) : Prop where
  gross : r.gross = .int l.gross
  net : r.net = .int l.net
  short_gross : Text.Short l.gross
  short_net : Text.Short l.net

open Document

namespace LooseRecord.Holds

variable {r : LooseRecord} {l : Liquidity}

lemma document (h : r.Holds l) : ∃ data, r.document = .ok data ∧ ShowsRecord data l := by
  have hdocument : r.document = .ok (.map [("initialized", r.initialized), ("tick", r.tick),
      ("liquidityGross", shown l.gross), ("liquidityNet", shown l.net)]) := by
    unfold LooseRecord.document
    rw [h.gross, h.net, amount_eq_shown h.short_gross, amount_eq_shown h.short_net]
    rfl
  exact ⟨_, hdocument, rfl, rfl⟩

lemma liquidity_throughDoubles (h : r.Holds l) {data : Value} (hshows : ShowsRecord data l) :
    liquidity data.throughDoubles = .ok l := by
  have hgross := field_throughDoubles hshows.gross
  have hnet := field_throughDoubles hshows.net
  rw [shown_throughDoubles] at hgross hnet
  unfold liquidity
  rw [hgross, ok_bind, toInteger_of_amount (amount_eq_shown h.short_gross), ok_bind, hnet, ok_bind,
    toInteger_of_amount (amount_eq_shown h.short_net)]
  rfl

end LooseRecord.Holds

section Records

variable {records : List LooseRecord} {held : List Liquidity}

lemma exists_documents (h : List.Forall₂ LooseRecord.Holds records held) :
    ∃ items, records.mapM LooseRecord.document = .ok items ∧
      List.Forall₂ ShowsRecord items held ∧
      (items.map Value.throughDoubles).mapM liquidity = .ok held := by
  simp only [mapM_eq_ok_iff, List.forall₂_map_left_iff]
  induction h with
  | nil => exact ⟨[], .nil, .nil, .nil⟩
  | cons hrecord _ ih =>
    obtain ⟨data, hdata, hshows⟩ := hrecord.document
    obtain ⟨items, hitems, hrest, hread⟩ := ih
    exact ⟨data :: items, .cons hdata hitems, .cons hshows hrest,
      .cons (hrecord.liquidity_throughDoubles hshows) hread⟩

/-- What the documents of records tell, a document tells that has them under a name. -/
lemma tells_of_field {data : Value} {name : String} {items : List Value}
    (hfield : field data name = .ok (.list items)) (hshows : List.Forall₂ ShowsRecord items held)
    (hread : (items.map Value.throughDoubles).mapM liquidity = .ok held) : Tells data name held := by
  refine ⟨⟨items, hfield, hshows⟩, ?_⟩
  unfold liquidities
  rw [field_throughDoubles hfield, ok_bind, Value.throughDoubles_list]
  exact hread

end Records

lemma LooseResult.exists_document {r : LooseResult} {held : List Liquidity}
    (h : List.Forall₂ LooseRecord.Holds r.ticks held) :
    ∃ data, r.document = .ok data ∧ Tells data "ticks" held := by
  obtain ⟨items, hitems, hshows, hread⟩ := exists_documents h
  unfold LooseResult.document
  rw [hitems]
  exact ⟨_, rfl, tells_of_field rfl hshows hread⟩

lemma LooseBand.exists_document {b : LooseBand} {below above : List Liquidity}
    (hbelow : List.Forall₂ LooseRecord.Holds b.below below)
    (habove : List.Forall₂ LooseRecord.Holds b.above above) :
    ∃ data, b.document = .ok data ∧ Tells data "below" below ∧ Tells data "above" above := by
  obtain ⟨belowItems, hbelowItems, hbelowShows, hbelowRead⟩ := exists_documents hbelow
  obtain ⟨aboveItems, haboveItems, haboveShows, haboveRead⟩ := exists_documents habove
  unfold LooseBand.document
  rw [hbelowItems, ok_bind, haboveItems]
  exact ⟨_, rfl, tells_of_field rfl hbelowShows hbelowRead, tells_of_field rfl haboveShows haboveRead⟩

/-- Results and bands whose records have integers for their liquidity have a document, which shows each
amount as a number exactly up to the size of `2 ^ 53`, and as decimal text beyond. A reader with doubles
finds every amount in it, so that those that differ in some amount do not look equal to it. -/
theorem liquidity_survives_doubles :
    (∀ (r : LooseResult) (held : List Liquidity), List.Forall₂ LooseRecord.Holds r.ticks held →
      ∃ data, r.document = .ok data ∧ Tells data "ticks" held ∧
        ∀ (s : LooseResult) (others : List Liquidity) (other : Value),
          List.Forall₂ LooseRecord.Holds s.ticks others → s.document = .ok other → others ≠ held →
            liquidities other.throughDoubles "ticks" ≠ liquidities data.throughDoubles "ticks") ∧
    ∀ (b : LooseBand) (below above : List Liquidity),
      List.Forall₂ LooseRecord.Holds b.below below → List.Forall₂ LooseRecord.Holds b.above above →
      ∃ data, b.document = .ok data ∧ Tells data "below" below ∧ Tells data "above" above ∧
        ∀ (c : LooseBand) (lower upper : List Liquidity) (other : Value),
          List.Forall₂ LooseRecord.Holds c.below lower → List.Forall₂ LooseRecord.Holds c.above upper →
          c.document = .ok other → lower ≠ below ∨ upper ≠ above →
            liquidities other.throughDoubles "below" ≠ liquidities data.throughDoubles "below" ∨
              liquidities other.throughDoubles "above" ≠ liquidities data.throughDoubles "above" := by
  -- Readings that survive differ where the liquidities do.
  have hdiffer {data other : Value} {name : String} {held others : List Liquidity}
      (h : Tells data name held) (hother : Tells other name others) (hne : others ≠ held) :
      liquidities other.throughDoubles name ≠ liquidities data.throughDoubles name := by
    rw [h.survives, hother.survives]
    exact fun heq => hne (Except.ok.inj heq)
  constructor
  · intro r held hheld
    obtain ⟨data, hdata, htells⟩ := LooseResult.exists_document hheld
    refine ⟨data, hdata, htells, fun s others other hothers hother hne => ?_⟩
    obtain ⟨_, hother', htells'⟩ := LooseResult.exists_document hothers
    obtain rfl := Except.ok.inj (hother'.symm.trans hother)
    exact hdiffer htells htells' hne
  · intro b below above hbelow habove
    obtain ⟨data, hdata, htellsBelow, htellsAbove⟩ := LooseBand.exists_document hbelow habove
    refine ⟨data, hdata, htellsBelow, htellsAbove, ?_⟩
    intro c lower upper other hlower hupper hother hne
    obtain ⟨_, hother', htellsLower, htellsUpper⟩ := LooseBand.exists_document hlower hupper
    obtain rfl := Except.ok.inj (hother'.symm.trans hother)
    exact hne.imp (hdiffer htellsBelow htellsLower) (hdiffer htellsAbove htellsUpper)

/-- Two amounts that are one double stay apart, in a result and in a band. -/
theorem neighbours_of_one_double_survive :
    let record (gross : Int) : LooseRecord := ⟨.bool true, .int 5, .int gross, .int (-(2 ^ 53 + 1))⟩
    let result (gross : Int) : LooseResult := ⟨[record gross], .int 1, .null, .inclusive⟩
    let band (gross : Int) : LooseBand := ⟨.int 0, [], [record gross], .null⟩
    nearestDouble (2 ^ 53 + 1) = nearestDouble (2 ^ 53) ∧
      (∃ data other, (result (2 ^ 53)).document = .ok data ∧
        (result (2 ^ 53 + 1)).document = .ok other ∧
        liquidities other.throughDoubles "ticks" ≠ liquidities data.throughDoubles "ticks") ∧
      ∃ data, (band (2 ^ 53 + 1)).document = .ok data ∧
        Tells data "above" [⟨2 ^ 53 + 1, -(2 ^ 53 + 1)⟩] := by
  intro record result band
  have hshort (i : Int) (h : i.natAbs < Nat.pow 10 16) : Text.Short i :=
    Text.short_of_lt (by decide) (by decide) h
  have hnet : Text.Short (-(2 ^ 53 + 1)) := hshort _ (by decide)
  have hholds (gross : Int) (h : gross.natAbs < Nat.pow 10 16) :
      List.Forall₂ LooseRecord.Holds [record gross] [⟨gross, -(2 ^ 53 + 1)⟩] :=
    .cons ⟨rfl, rfl, hshort _ h, hnet⟩ .nil
  have hfirst := hholds (2 ^ 53) (by decide)
  have hnext := hholds (2 ^ 53 + 1) (by decide)
  obtain ⟨data, hdata, -, hdiffer⟩ := liquidity_survives_doubles.1 (result (2 ^ 53)) _ hfirst
  obtain ⟨other, hother, -, -⟩ := liquidity_survives_doubles.1 (result (2 ^ 53 + 1)) _ hnext
  obtain ⟨bandData, hband, -, habove, -⟩ :=
    liquidity_survives_doubles.2 (band (2 ^ 53 + 1)) [] _ .nil hnext
  refine ⟨by decide, ⟨data, other, hdata, hother, ?_⟩, bandData, hband, habove⟩
  exact hdiffer (result (2 ^ 53 + 1)) _ other hnext hother (by decide)

end TickWalk
