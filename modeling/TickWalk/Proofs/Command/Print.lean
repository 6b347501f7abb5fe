import TickWalk.Proofs.Command.Run
import TickWalk.Proofs.Command.Table
import TickWalk.Proofs.Json.Document

/-!
# What commands print

A command prints its whole result: as a document the text that represents the document of the result,
and otherwise tables in which every valid record has a row of its own. Nothing but an integer that is
too long keeps it from doing so. Only one in an amount does so after something has been printed, which is
the title of its table.
-/

namespace TickWalk.Command

open Json

variable {env : Environment} {node : Node} {a : ScanArguments} {b : BandArguments} {out : String}
  {block start : Int} {x : Action (List String) Unit} {lines : List String}

/-! ### Lines -/

lemma linesOf_singleton (s : String) : linesOf [s] = s ++ "\n" := String.empty_append

lemma Printout.of_printsLines (h : PrintsLines x lines) : Printout.of x = ⟨linesOf lines, none⟩ := by
  unfold Printout.of
  rw [h []]
  rfl

/-! ### Tables of records -/

/-- The cells show the fields of the record and its price, which may be rounded to six digits. -/
def RowOf (r : TickRecord) (cells : List String) : Prop :=
  ∃ price, (price = Price.shown r.tick ∨ price = Table.sixDigits (Price.shown r.tick)) ∧
    List.Forall₂ Table.Shows
      [toString r.tick, if r.initialized then "True" else "False", toString r.gross, toString r.net,
        price] cells

/-- The lines tell of all the records: of none, or in a row for each of them. -/
inductive Tabulates : List TickRecord → List String → Prop
  | none (title : String) : Tabulates [] [title, "  (none found within domain)"]
  | rows {records : List TickRecord} {cells : TickRecord → List String}
      (title top headings under rule : String) (hsome : records ≠ [])
      (hcells : ∀ r ∈ records, RowOf r (cells r)) :
      Tabulates records (title :: top :: headings :: under ::
        records.flatMap fun r => [Table.row (cells r), rule])

theorem exists_printsLines {records : List TickRecord}
    (hrecords : ∀ r ∈ records, KeyDomain.ticks.strictlyInside r.tick = true ∧ r.Writable)
    (title : String) : ∃ lines, PrintsLines (printRecords records title) lines ∧ Tabulates records lines := by
  by_cases hsome : records = []
  · rw [hsome]
    exact ⟨_, printsLines_nil title, .none title⟩
  · obtain ⟨top, headings, under, rule, cells, htable, hcells⟩ :=
      exists_recordTable (fun r hr => (hrecords r hr).1) fun r hr => (hrecords r hr).2
    refine ⟨_, printsLines_of_recordTable hsome title htable, ?_⟩
    apply Tabulates.rows
    · exact hsome
    · intro r _
      refine ⟨priceText records r.tick, ?_, hcells r⟩
      unfold priceText
      split
      · exact .inl rfl
      · exact .inr rfl

/-! ### Scans -/

namespace ScanRun

variable {run : ScanRun env a node}

/-- The text is the complete result of the scan. -/
inductive Prints (run : ScanRun env a node) : String → Prop
  | document {data : Value} {text : String} (hjson : a.pool.json = true)
      (hdata : run.result.document = .ok data) (htext : Represents text data) :
      Prints run (text ++ "\n")
  | table {lines : List String} (hjson : a.pool.json = false)
      (hlines : Tabulates run.result.validTicks lines) :
      Prints run (linesOf (lines ++ if run.result.exhausted then
        ["Reached the tick domain bound before filling every slot."] else []))

lemma plain_document {result : ScanResult} {data : Value} (hversion : result.version = .int block)
    (h : result.document = .ok data) : data.Plain fun _ => True := by
  apply (ScanResult.plain_document_iff (fun _ _ => trivial) h).mpr
  rw [hversion]
  exact ⟨fun _ _ => trivial, trivial, .int trivial⟩

lemma version_of_scanned {v : StateView} {result : ScanResult}
    (h : (Scanner.scan ⟨v.provider, .ticks⟩ (a.request block start)).MayAnswer result) :
    result.version = .int block := by
  rw [← Provider.stirred_id v.provider] at h
  exact StateView.version_of_scan h

lemma printScan_of_json {result : ScanResult} (tick : Int) (hjson : a.pool.json = true)
    (hversion : result.version = .int block) :
    (∃ text data, result.document = .ok data ∧ Represents text data ∧
      PrintsLines (printScan a block tick result) [text]) ∨
    printScan a block tick result = Action.lift (.error (.tooManyDigits none)) := by
  unfold printScan
  rw [hjson, if_pos rfl]
  cases hwritten : result.loose.json .standard with
  | ok text =>
    obtain ⟨data, hdata, hwrite⟩ := exists_of_bind_ok hwritten
    have hrepresents := represents_of_write (plain_document hversion hdata) Layout.blank_standard hwrite
    exact .inl ⟨text, data, hdata, hrepresents, printsLines_print [text]⟩
  | error e =>
    right
    rcases error_or_of_bind_error hwritten with hdata | ⟨data, hdata, hwrite⟩
    · rw [ScanResult.eq_tooManyDigits_of_document hdata, Action.lift_error_bind]
    · rw [eq_tooManyDigits_of_write (plain_document hversion hdata) Layout.blank_standard hwrite,
        Action.lift_error_bind]

lemma printScan_of_not_json {result : ScanResult} (hjson : a.pool.json = false)
    (hrecords : ∀ r ∈ result.validTicks, KeyDomain.ticks.strictlyInside r.tick = true ∧ r.Writable) :
    (∃ lines, Tabulates result.validTicks lines ∧
      PrintsLines (printScan a block start result) (lines ++ if result.exhausted then
        ["Reached the tick domain bound before filling every slot."] else [])) ∨
    printScan a block start result = Action.lift (.error (.tooManyDigits none)) := by
  unfold printScan
  rw [hjson, if_neg Bool.false_ne_true]
  rcases Text.composed_cases [.int result.validTo, .int a.steps, .int start, .int block] with
    ⟨-, htitle⟩ | ⟨-, htitle⟩
  · rw [htitle, Action.lift_ok_bind]
    obtain ⟨lines, hlines, htable⟩ := exists_printsLines hrecords _
    refine .inl ⟨lines, htable, hlines.bind ?_⟩
    cases result.exhausted with
    | false => exact fun printed => congrArg (Outcome.mk _ · _) (List.append_nil printed).symm
    | true => exact printsLines_print _
  · rw [htitle, Action.lift_error_bind]
    exact .inr rfl

/-- With amounts that can be written the result is printed, or nothing is. -/
theorem printout_cases (run : ScanRun env a node) (hrecords : ∀ r ∈ run.result.validTicks,
      KeyDomain.ticks.strictlyInside r.tick = true ∧ r.Writable) :
    (∃ out, Printout.of (printScan a run.block run.start run.result) = ⟨out, none⟩ ∧ run.Prints out) ∨
    Printout.of (printScan a run.block run.start run.result) = ⟨"", some (.tooManyDigits none)⟩ := by
  cases hjson : a.pool.json with
  | true =>
    rcases printScan_of_json run.start hjson (version_of_scanned ⟨node, run.scanned⟩) with
      ⟨text, data, hdata, hrepresents, hprints⟩ | hnone
    · refine .inl ⟨_, Printout.of_printsLines hprints, ?_⟩
      rw [linesOf_singleton]
      exact .document hjson hdata hrepresents
    · rw [hnone]
      exact .inr rfl
  | false =>
    rcases printScan_of_not_json hjson hrecords with ⟨lines, htable, hprints⟩ | hnone
    · exact .inl ⟨_, Printout.of_printsLines hprints, .table hjson htable⟩
    · rw [hnone]
      exact .inr rfl

end ScanRun

/-! ### Bands -/

namespace BandRun

variable {run : BandRun env b node}

/-- The text is the complete band. -/
inductive Prints (run : BandRun env b node) : String → Prop
  | document {data : Value} {text : String} (hjson : b.pool.json = true)
      (hdata : run.band.document = .ok data) (htext : Represents text data) :
      Prints run (text ++ "\n")
  | tables {below above : List String} (hjson : b.pool.json = false)
      (hbelow : Tabulates run.band.below below) (habove : Tabulates run.band.above above) :
      Prints run (linesOf (below ++ above))

lemma fields_of_loaded {v : StateView} {band : TickBand}
    (h : (loadBand ⟨v.provider, .ticks⟩ (b.request block start)).MayAnswer band) :
    band.current = .int start ∧ band.version = .int block := by
  constructor
  · obtain ⟨below, -, hrest⟩ := Action.exists_mayAnswer_of_bind h
    obtain ⟨above, -, hrest⟩ := Action.exists_mayAnswer_of_bind hrest
    obtain ⟨_, -, hrest⟩ := Action.exists_mayAnswer_of_bind hrest
    obtain ⟨_, -, hrest⟩ := Action.exists_mayAnswer_of_bind hrest
    rw [← Except.ok.inj (Action.eq_ok_of_mayAnswer hrest)]
    rfl
  · rw [← Provider.stirred_id v.provider] at h
    exact StateView.version_of_loadBand h

lemma plain_document {band : TickBand} {data : Value}
    (hfields : band.current = .int start ∧ band.version = .int block)
    (h : band.document = .ok data) : data.Plain fun _ => True := by
  apply (TickBand.plain_document_iff (fun _ _ => trivial) h).mpr
  rw [hfields.1, hfields.2]
  exact ⟨.int trivial, .int trivial, fun _ _ => trivial, fun _ _ => trivial⟩

lemma printBand_of_json {band : TickBand} (hjson : b.pool.json = true)
    (hfields : band.current = .int start ∧ band.version = .int block) :
    (∃ text data, band.document = .ok data ∧ Represents text data ∧
      PrintsLines (printBand b block start band) [text]) ∨
    printBand b block start band = Action.lift (.error (.tooManyDigits none)) := by
  unfold printBand
  rw [hjson, if_pos rfl]
  cases hdata : band.document with
  | error e =>
    rw [TickBand.eq_tooManyDigits_of_document hdata, Action.lift_error_bind]
    exact .inr rfl
  | ok data =>
    rw [Action.lift_ok_bind]
    have hplain := plain_document hfields hdata
    cases hwrite : Json.write .standard data with
    | error e =>
      rw [eq_tooManyDigits_of_write hplain Layout.blank_standard hwrite, Action.lift_error_bind]
      exact .inr rfl
    | ok text =>
      exact .inl ⟨text, data, rfl, represents_of_write hplain Layout.blank_standard hwrite,
        printsLines_print [text]⟩

/-- Both titles show the same integers, so that the second one can be composed if the first one can. -/
lemma printBand_of_not_json {band : TickBand} (hjson : b.pool.json = false)
    (hbelow : ∀ r ∈ band.below, KeyDomain.ticks.strictlyInside r.tick = true ∧ r.Writable)
    (habove : ∀ r ∈ band.above, KeyDomain.ticks.strictlyInside r.tick = true ∧ r.Writable) :
    (∃ below above, Tabulates band.below below ∧ Tabulates band.above above ∧
      PrintsLines (printBand b block start band) (below ++ above)) ∨
    printBand b block start band = Action.lift (.error (.tooManyDigits none)) := by
  unfold printBand
  rw [hjson, if_neg Bool.false_ne_true]
  rcases Text.composed_cases [.int start, .int block] with ⟨-, htitle⟩ | ⟨-, htitle⟩
  · rw [htitle, htitle, Action.lift_ok_bind, Action.lift_ok_bind]
    obtain ⟨below, hlines, htable⟩ := exists_printsLines hbelow _
    obtain ⟨above, hlines', htable'⟩ := exists_printsLines habove _
    exact .inl ⟨below, above, htable, htable', hlines.bind hlines'⟩
  · rw [htitle, Action.lift_error_bind]
    exact .inr rfl

/-- With amounts that can be written the band is printed, or nothing is. -/
theorem printout_cases (run : BandRun env b node)
    (hbelow : ∀ r ∈ run.band.below, KeyDomain.ticks.strictlyInside r.tick = true ∧ r.Writable)
    (habove : ∀ r ∈ run.band.above, KeyDomain.ticks.strictlyInside r.tick = true ∧ r.Writable) :
    (∃ out, Printout.of (printBand b run.block run.current run.band) = ⟨out, none⟩ ∧ run.Prints out) ∨
    Printout.of (printBand b run.block run.current run.band) = ⟨"", some (.tooManyDigits none)⟩ := by
  cases hjson : b.pool.json with
  | true =>
    rcases printBand_of_json hjson (fields_of_loaded ⟨node, run.loaded⟩) with
      ⟨text, data, hdata, hrepresents, hprints⟩ | hnone
    · refine .inl ⟨_, Printout.of_printsLines hprints, ?_⟩
      rw [linesOf_singleton]
      exact .document hjson hdata hrepresents
    · rw [hnone]
      exact .inr rfl
  | false =>
    rcases printBand_of_not_json hjson hbelow habove with ⟨below, above, htable, htable', hprints⟩ | hnone
    · exact .inl ⟨_, Printout.of_printsLines hprints, .tables hjson htable htable'⟩
    · rw [hnone]
      exact .inr rfl

end BandRun

end TickWalk.Command
