import TickWalk.Document.Decode
import TickWalk.Document.Encode
import TickWalk.Proofs.Action
import TickWalk.Proofs.Text.Integer
import Mathlib.Data.List.Forall2

/-!
# Results that come back from their documents

A document gives an amount as a number or as text, and both are read back as the same integer. A result
therefore comes back from its document in every field, from the slots that are not filled to the
direction. What can keep it from doing so is an amount that is too long to be written, or a count of
filled slots that does not fit the slots.
-/

namespace TickWalk

lemma mapM_eq_ok_iff {α β : Type} {f : α → Except Failure β} {as : List α} {bs : List β} :
    as.mapM f = .ok bs ↔ List.Forall₂ (fun a b => f a = .ok b) as bs := by
  induction as generalizing bs with
  | nil =>
    rw [List.forall₂_nil_left_iff]
    constructor
    · intro h
      exact (Except.ok.inj h).symm
    · rintro rfl
      rfl
  | cons a rest ih =>
    rw [List.mapM_cons]
    constructor
    · intro h
      obtain ⟨b, hb, h⟩ := exists_of_bind_ok h
      obtain ⟨more, hmore, h⟩ := exists_of_bind_ok h
      obtain rfl := Except.ok.inj h
      exact .cons hb (ih.mp hmore)
    · rintro (_ | ⟨hb, hmore⟩)
      rw [hb, ok_bind, ih.mpr hmore]
      rfl

lemma exists_of_mem_mapM {α β : Type} {f : α → Except Failure β} {as : List α} {bs : List β}
    (h : as.mapM f = .ok bs) : ∀ b ∈ bs, ∃ a ∈ as, f a = .ok b := by
  rw [mapM_eq_ok_iff] at h
  induction h with
  | nil => exact List.forall_mem_nil _
  | cons ha _ ih =>
    rw [List.forall_mem_cons]
    refine ⟨⟨_, .head _, ha⟩, fun b hb => ?_⟩
    obtain ⟨a, hmem, hread⟩ := ih b hb
    exact ⟨a, .tail _ hmem, hread⟩

lemma exists_of_mapM_error {α β : Type} {f : α → Except Failure β} {as : List α} {e : Failure}
    (h : as.mapM f = .error e) : ∃ a ∈ as, f a = .error e := by
  induction as with
  | nil => cases h
  | cons a rest ih =>
    rw [List.mapM_cons] at h
    rcases error_or_of_bind_error h with ha | ⟨b, -, h⟩
    · exact ⟨a, .head _, ha⟩
    · rcases error_or_of_bind_error h with hrest | ⟨bs, -, h⟩
      · obtain ⟨c, hc, hfail⟩ := ih hrest
        exact ⟨c, .tail _ hc, hfail⟩
      · cases h

namespace Document

variable {i : Int} {v : Value}

lemma field_eq_ok_iff {data : Value} {name : String} :
    field data name = .ok v ↔ ∃ fields, data = .map fields ∧ Value.field? fields name = some v := by
  constructor
  · intro h
    unfold field at h
    split at h
    · rename_i fields
      split at h
      · rename_i w hfield
        obtain rfl := Except.ok.inj h
        exact ⟨fields, rfl, hfield⟩
      · cases h
    · cases h
  · rintro ⟨fields, rfl, hfield⟩
    unfold field
    dsimp only
    rw [hfield]

lemma short_of_le_safeInteger (h : i.natAbs ≤ safeInteger) : Text.Short i := by
  have hlt : i.natAbs < Nat.pow 10 16 := Nat.lt_of_le_of_lt h (by decide)
  exact Text.short_of_lt (by decide) (by decide) hlt

lemma amount_int (i : Int) : amount (.int i) =
    if safeInteger < i.natAbs then do .ok (.text (← Value.integerText i)) else .ok (.int i) := rfl

lemma exists_amount_iff : (∃ v, amount (.int i) = .ok v) ↔ Text.Short i := by
  rw [amount_int]
  by_cases hlarge : safeInteger < i.natAbs
  · rw [if_pos hlarge]
    constructor
    · rintro ⟨v, hv⟩
      obtain ⟨s, hs, -⟩ := exists_of_bind_ok hv
      exact Value.short_of_integerText hs
    · intro h
      rw [Value.integerText_of_short h]
      exact ⟨_, rfl⟩
  · rw [if_neg hlarge]
    exact iff_of_true ⟨_, rfl⟩ (short_of_le_safeInteger (Nat.not_lt.mp hlarge))

lemma eq_tooManyDigits_of_amount {e : Failure} (h : amount (.int i) = .error e) :
    e = .tooManyDigits none := by
  by_cases hshort : Text.Short i
  · obtain ⟨v, hv⟩ := exists_amount_iff.mpr hshort
    cases h.symm.trans hv
  · rw [amount_int, Value.integerText_of_not_short hshort] at h
    split at h
    · exact (Except.error.inj h).symm
    · cases h

lemma toInteger_of_amount (h : amount (.int i) = .ok v) : v.toInteger = .ok i := by
  rw [amount_int] at h
  split at h
  · obtain ⟨s, hs, h⟩ := exists_of_bind_ok h
    obtain rfl := Except.ok.inj h
    exact Value.toInteger_of_integerText hs
  · obtain rfl := Except.ok.inj h
    exact Value.toInteger_int i

end Document

namespace TickRecord

variable {r : TickRecord} {data : Value}

/-- The amounts of a record are not too long to be written. -/
def Writable (r : TickRecord) : Prop := Text.Short r.gross ∧ Text.Short r.net

lemma exists_document_iff : (∃ data, r.loose.document = .ok data) ↔ r.Writable := by
  rw [Writable, ← Document.exists_amount_iff, ← Document.exists_amount_iff]
  constructor
  · rintro ⟨data, h⟩
    obtain ⟨gross, hgross, h⟩ := exists_of_bind_ok h
    obtain ⟨net, hnet, -⟩ := exists_of_bind_ok h
    exact ⟨⟨gross, hgross⟩, ⟨net, hnet⟩⟩
  · rintro ⟨⟨gross, hgross⟩, ⟨net, hnet⟩⟩
    unfold LooseRecord.document loose
    rw [hgross, ok_bind, hnet]
    exact ⟨_, rfl⟩

lemma eq_tooManyDigits_of_document {e : Failure} (h : r.loose.document = .error e) :
    e = .tooManyDigits none := by
  rcases error_or_of_bind_error h with hgross | ⟨gross, -, h⟩
  · exact Document.eq_tooManyDigits_of_amount hgross
  · rcases error_or_of_bind_error h with hnet | ⟨net, -, h⟩
    · exact Document.eq_tooManyDigits_of_amount hnet
    · cases h

lemma eq_tooManyDigits_of_mapM {ticks : List TickRecord} {e : Failure}
    (h : (ticks.map TickRecord.loose).mapM LooseRecord.document = .error e) :
    e = .tooManyDigits none := by
  obtain ⟨_, hmem, hfail⟩ := exists_of_mapM_error h
  obtain ⟨record, -, rfl⟩ := List.mem_map.mp hmem
  exact eq_tooManyDigits_of_document hfail

lemma ofDocument_of_document (h : r.loose.document = .ok data) : ofDocument data = .ok r := by
  obtain ⟨gross, hgross, h⟩ := exists_of_bind_ok h
  obtain ⟨net, hnet, h⟩ := exists_of_bind_ok h
  obtain rfl := Except.ok.inj h
  have hread : ofDocument (.map [("initialized", r.loose.initialized), ("tick", r.loose.tick),
      ("liquidityGross", gross), ("liquidityNet", net)]) = (do
        let gross ← gross.toInteger
        let net ← net.toInteger
        .ok ⟨r.initialized, r.tick, gross, net⟩) := rfl
  rw [hread, Document.toInteger_of_amount hgross, ok_bind, Document.toInteger_of_amount hnet]
  rfl

end TickRecord

namespace ScanResult

variable {r : ScanResult}

lemma mapM_ofDocument {ticks : List TickRecord} {documents : List Value}
    (h : (ticks.map TickRecord.loose).mapM LooseRecord.document = .ok documents) :
    documents.mapM TickRecord.ofDocument = .ok ticks := by
  rw [mapM_eq_ok_iff, List.forall₂_map_left_iff] at h
  rw [mapM_eq_ok_iff]
  exact h.flip.imp fun _ _ hdata => TickRecord.ofDocument_of_document hdata

lemma exists_mapM_document_iff {ticks : List TickRecord} :
    (∃ documents, (ticks.map TickRecord.loose).mapM LooseRecord.document = .ok documents) ↔
      ∀ record ∈ ticks, record.Writable := by
  simp only [mapM_eq_ok_iff, List.forall₂_map_left_iff]
  induction ticks with
  | nil => simp
  | cons record rest ih =>
    rw [List.forall_mem_cons, ← ih, ← TickRecord.exists_document_iff]
    constructor
    · rintro ⟨_, _ | ⟨hdata, hrest⟩⟩
      exact ⟨⟨_, hdata⟩, ⟨_, hrest⟩⟩
    · rintro ⟨⟨data, hdata⟩, ⟨documents, hrest⟩⟩
      exact ⟨data :: documents, .cons hdata hrest⟩

lemma document_eq (r : ScanResult) : r.document = (do
    let ticks ← (r.ticks.map TickRecord.loose).mapM LooseRecord.document
    .ok (.map [("ticks", .list ticks), ("validTo", .int r.validTo), ("blockNumber", r.version),
      ("direction", .text r.direction.name)])) := rfl

lemma ofDocument_map (documents : List Value) (validTo : Int) (version : Value) (d : Direction) :
    ofDocument (.map [("ticks", .list documents), ("validTo", .int validTo),
      ("blockNumber", version), ("direction", .text d.name)]) = (do
        let ticks ← documents.mapM TickRecord.ofDocument
        if validTo < 0 || ticks.length < validTo then
          Failure.refuse (.validToOutside validTo ticks.length)
        else .ok ⟨ticks, validTo.toNat, version, d⟩) := by
  cases d <;> rfl

/-- What comes of the document of a result: that result, if its count fits its slots. -/
lemma ofDocument_of_document {data : Value} (h : r.document = .ok data) : ofDocument data =
    if r.validTo ≤ r.ticks.length then .ok r
    else Failure.refuse (.validToOutside r.validTo r.ticks.length) := by
  rw [document_eq] at h
  obtain ⟨documents, hdocuments, h⟩ := exists_of_bind_ok h
  obtain rfl := Except.ok.inj h
  rw [ofDocument_map, mapM_ofDocument hdocuments, ok_bind]
  have hoverflow : (decide ((r.validTo : Int) < 0) ||
      decide ((r.ticks.length : Int) < r.validTo)) = decide (¬ r.validTo ≤ r.ticks.length) := by
    rw [Bool.eq_iff_iff, Bool.or_eq_true, decide_eq_true_eq, decide_eq_true_eq, decide_eq_true_eq]
    omega
  rw [hoverflow]
  by_cases hfits : r.validTo ≤ r.ticks.length
  · simp only [hfits, not_true_eq_false, decide_false, Bool.false_eq_true, if_false, if_true]
    rfl
  · simp only [hfits, not_false_eq_true, decide_true, if_true, if_false]

lemma exists_document_iff : (∃ data, r.document = .ok data) ↔ ∀ record ∈ r.ticks, record.Writable := by
  rw [document_eq, ← exists_mapM_document_iff]
  constructor
  · rintro ⟨data, h⟩
    obtain ⟨documents, hdocuments, -⟩ := exists_of_bind_ok h
    exact ⟨documents, hdocuments⟩
  · rintro ⟨documents, hdocuments⟩
    rw [hdocuments]
    exact ⟨_, rfl⟩

lemma eq_tooManyDigits_of_document {e : Failure} (h : r.document = .error e) :
    e = .tooManyDigits none := by
  rw [document_eq] at h
  rcases error_or_of_bind_error h with hticks | ⟨documents, -, h⟩
  · exact TickRecord.eq_tooManyDigits_of_mapM hticks
  · cases h

/-- A result has a document from which it comes back, in every field, exactly when the amounts of all
its slots can be written and it has as many slots as it counts filled ones. -/
theorem comes_back_iff (r : ScanResult) :
    (∃ data, r.document = .ok data ∧ ofDocument data = .ok r) ↔
      (∀ record ∈ r.ticks, record.Writable) ∧ r.validTo ≤ r.ticks.length := by
  rw [document_eq, ← exists_mapM_document_iff]
  constructor
  · rintro ⟨data, hdata, hback⟩
    obtain ⟨documents, hdocuments, hdata⟩ := exists_of_bind_ok hdata
    obtain rfl := Except.ok.inj hdata
    refine ⟨⟨documents, hdocuments⟩, ?_⟩
    rw [ofDocument_map, mapM_ofDocument hdocuments, ok_bind] at hback
    split at hback
    · cases hback
    · rename_i hfits
      rw [Bool.or_eq_true, decide_eq_true_eq, decide_eq_true_eq] at hfits
      omega
  · rintro ⟨⟨documents, hdocuments⟩, hfits⟩
    rw [hdocuments]
    refine ⟨_, rfl, ?_⟩
    have hinside : ¬ (decide ((r.validTo : Int) < 0) ||
        decide ((r.ticks.length : Int) < r.validTo)) = true := by
      rw [Bool.or_eq_true, decide_eq_true_eq, decide_eq_true_eq]
      omega
    rw [ofDocument_map, mapM_ofDocument hdocuments, ok_bind, if_neg hinside]
    rfl

end ScanResult

lemma TickBand.eq_tooManyDigits_of_document {b : TickBand} {e : Failure}
    (h : b.document = .error e) : e = .tooManyDigits none := by
  rcases error_or_of_bind_error h with hbelow | ⟨below, -, h⟩
  · exact TickRecord.eq_tooManyDigits_of_mapM hbelow
  · rcases error_or_of_bind_error h with habove | ⟨above, -, h⟩
    · exact TickRecord.eq_tooManyDigits_of_mapM habove
    · cases h

end TickWalk
