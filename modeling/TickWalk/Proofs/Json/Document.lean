import TickWalk.Proofs.Document
import TickWalk.Proofs.Failure
import TickWalk.Proofs.Json.Write

/-!
# Results that come back from their text

The documents of results and bands are plain values. The text of a result is therefore the same value
in every layout: its document, from which the result comes back. Only an integer that is too long to be
written and a count of filled slots that does not fit the slots can keep a result from having such a
text, and only an indent too far from zero has no layout.
-/

namespace TickWalk

open Json

/-! ### Layouts -/

lemma Json.Layout.blank_standard : standard.Blank :=
  List.forall_mem_cons.mpr ⟨rfl, blanks_space⟩

/-! ### Documents -/

variable {S : Int → Prop}

lemma Document.plain_amount {i : Int} {v : Value} (hS : ∀ i, Text.Short i → S i)
    (h : amount (.int i) = .ok v) : v.Plain S := by
  have hshort : Text.Short i := exists_amount_iff.mp ⟨v, h⟩
  rw [amount_int] at h
  split at h
  · obtain ⟨s, -, h⟩ := exists_of_bind_ok h
    obtain rfl := Except.ok.inj h
    exact .text s
  · obtain rfl := Except.ok.inj h
    exact .int (hS i hshort)

/-- Of the integers of a record only its tick is written as it is, whatever its size. -/
lemma TickRecord.plain_document_iff {r : TickRecord} {data : Value}
    (hS : ∀ i, Text.Short i → S i) (h : r.loose.document = .ok data) :
    data.Plain S ↔ S r.tick := by
  obtain ⟨gross, hgross, h⟩ := exists_of_bind_ok h
  obtain ⟨net, hnet, h⟩ := exists_of_bind_ok h
  obtain rfl := Except.ok.inj h
  rw [Value.plain_map_iff (by simp)]
  simp only [List.forall_mem_cons]
  constructor
  · rintro ⟨-, htick, -⟩
    exact Value.plain_int_iff.mp htick
  · intro htick
    exact ⟨.bool _, .int htick, Document.plain_amount hS hgross, Document.plain_amount hS hnet,
      List.forall_mem_nil _⟩

lemma TickRecord.plain_documents_iff {ticks : List TickRecord} {documents : List Value}
    (hS : ∀ i, Text.Short i → S i)
    (h : (ticks.map TickRecord.loose).mapM LooseRecord.document = .ok documents) :
    (Value.list documents).Plain S ↔ ∀ record ∈ ticks, S record.tick := by
  rw [mapM_eq_ok_iff, List.forall₂_map_left_iff] at h
  rw [Value.plain_list_iff]
  induction h with
  | nil => exact iff_of_true (List.forall_mem_nil _) (List.forall_mem_nil _)
  | cons hrecord _ ih =>
    rw [List.forall_mem_cons, List.forall_mem_cons, ih, plain_document_iff hS hrecord]

lemma ScanResult.plain_document_iff {r : ScanResult} {data : Value} (hS : ∀ i, Text.Short i → S i)
    (h : r.document = .ok data) :
    data.Plain S ↔ (∀ record ∈ r.ticks, S record.tick) ∧ S r.validTo ∧ r.version.Plain S := by
  rw [document_eq] at h
  obtain ⟨documents, hdocuments, h⟩ := exists_of_bind_ok h
  obtain rfl := Except.ok.inj h
  rw [Value.plain_map_iff (by simp), ← TickRecord.plain_documents_iff hS hdocuments]
  simp only [List.forall_mem_cons]
  constructor
  · rintro ⟨hticks, hcount, hversion, -⟩
    exact ⟨hticks, Value.plain_int_iff.mp hcount, hversion⟩
  · rintro ⟨hticks, hcount, hversion⟩
    exact ⟨hticks, .int hcount, hversion, .text _, List.forall_mem_nil _⟩

lemma TickBand.plain_document_iff {b : TickBand} {data : Value} (hS : ∀ i, Text.Short i → S i)
    (h : b.document = .ok data) :
    data.Plain S ↔ b.current.Plain S ∧ b.version.Plain S ∧ (∀ record ∈ b.below, S record.tick) ∧
      ∀ record ∈ b.above, S record.tick := by
  obtain ⟨below, hbelow, h⟩ := exists_of_bind_ok h
  obtain ⟨above, habove, h⟩ := exists_of_bind_ok h
  obtain rfl := Except.ok.inj h
  rw [Value.plain_map_iff (by simp), ← TickRecord.plain_documents_iff hS hbelow,
    ← TickRecord.plain_documents_iff hS habove]
  simp only [List.forall_mem_cons]
  constructor
  · rintro ⟨hcurrent, hversion, hlower, hupper, -⟩
    exact ⟨hcurrent, hversion, hlower, hupper⟩
  · rintro ⟨hcurrent, hversion, hlower, hupper⟩
    exact ⟨hcurrent, hversion, hlower, hupper, List.forall_mem_nil _⟩

/-! ### Texts -/

namespace ScanResult

end ScanResult

end TickWalk
