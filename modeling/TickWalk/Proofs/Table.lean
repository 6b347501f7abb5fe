import TickWalk.Proofs.Text.Integer
import TickWalk.Table
import Mathlib.Data.List.Forall2
import Mathlib.Tactic.Lemma

/-!
# What tables show

However the cells of a table are aligned, each of them is its text with blanks around it, and the rows
are those of the columns, one below the other. Nothing that is put into a table is lost or cut: the texts
of a row can be told from its line, if there are no blanks and no bars in them.
-/

namespace TickWalk.Table

variable {α : Type} {s t : String} {c : Column}

/-- The cell is the text between blanks. -/
def Shows (s cell : String) : Prop :=
  ∃ before after, cell = String.ofList (List.replicate before ' ') ++ s ++
    String.ofList (List.replicate after ' ')

lemma shows_padLeft (width : Nat) (s : String) : Shows s (padLeft width s) := by
  refine ⟨width - s.length, 0, ?_⟩
  rw [List.replicate_zero, String.ofList_nil, String.append_empty]
  rfl

lemma shows_padRight (width : Nat) (s : String) : Shows s (padRight width s) := by
  refine ⟨0, width - s.length, ?_⟩
  rw [List.replicate_zero, String.ofList_nil, String.empty_append]
  rfl

lemma Shows.trans (h : Shows s t) {cell : String} (h' : Shows t cell) : Shows s cell := by
  obtain ⟨before, after, rfl⟩ := h
  obtain ⟨more, rest, rfl⟩ := h'
  refine ⟨more + before, after + rest, ?_⟩
  rw [List.replicate_add, List.replicate_add, String.ofList_append, String.ofList_append]
  simp only [String.append_assoc]

/-- There are no blanks and no bars in the text. -/
def Plain (s : String) : Prop := ∀ c ∈ s.toList, Text.isBlank c = false ∧ c ≠ '|'

/-- The cells of a line, without the blanks around them. -/
def cellsOf (line : String) : List String :=
  ((line.toList.splitOn '|').drop 1).dropLast.map fun cell => String.ofList (Text.trimBlanks cell)

lemma toList_padded (cell : String) : (" " ++ cell ++ " ").toList = ' ' :: cell.toList ++ [' '] := by
  rw [String.toList_append, String.toList_append]
  rfl

lemma Shows.padded {cell : String} (h : Shows s cell) : ∃ before after,
    (" " ++ cell ++ " ").toList = List.replicate before ' ' ++ s.toList ++ List.replicate after ' ' := by
  obtain ⟨before, after, rfl⟩ := h
  refine ⟨before + 1, after + 1, ?_⟩
  rw [toList_padded, List.replicate_succ, List.replicate_succ', String.toList_append, String.toList_append,
    String.toList_ofList, String.toList_ofList]
  simp only [List.cons_append, List.append_assoc]

lemma bar_not_mem_padded {cell : String} (h : Shows s cell) (hs : Plain s) :
    '|' ∉ (" " ++ cell ++ " ").toList := by
  obtain ⟨before, after, hpadded⟩ := h.padded
  rw [hpadded]
  intro hmem
  rcases List.mem_append.mp hmem with hmem | hmem
  · rcases List.mem_append.mp hmem with hmem | hmem
    · exact absurd (List.eq_of_mem_replicate hmem) (by decide)
    · exact (hs '|' hmem).2 rfl
  · exact absurd (List.eq_of_mem_replicate hmem) (by decide)

lemma map_trimBlanks_padded {texts cells : List String} (h : List.Forall₂ Shows texts cells)
    (hplain : ∀ s ∈ texts, Plain s) :
    (cells.map fun c => String.ofList (Text.trimBlanks (" " ++ c ++ " ").toList)) = texts := by
  induction h with
  | nil => rfl
  | @cons s cell _ _ hshow _ ih =>
    obtain ⟨before, after, hpadded⟩ := hshow.padded
    have hs : ∀ c ∈ s.toList, Text.isBlank c = false := fun c hc => (hplain s List.mem_cons_self c hc).1
    rw [List.map_cons, ih fun t ht => hplain t (List.mem_cons_of_mem _ ht), hpadded,
      Text.trimBlanks_replicate_append hs, String.ofList_toList]

lemma toList_row {cells : List String} (hne : cells ≠ []) : (row cells).toList = ['|'].intercalate
    ([] :: ((cells.map fun c => " " ++ c ++ " ").map String.toList ++ [[]])) := by
  have hpadded : (cells.map fun c => " " ++ c ++ " ") ≠ [] := mt List.map_eq_nil_iff.mp hne
  have hrow : row cells =
      "|".intercalate ("" :: ((cells.map fun c => " " ++ c ++ " ") ++ [""])) := by
    rw [String.intercalate_cons_of_ne_nil (List.append_ne_nil_of_left_ne_nil hpadded _),
      String.intercalate_append_of_ne_nil hpadded (List.cons_ne_nil _ _), String.empty_append,
      String.intercalate_singleton, String.append_empty, ← String.append_assoc]
    rfl
  rw [hrow, String.toList_intercalate, List.map_cons, List.map_append]
  rfl

/-- The texts of a row are read from its line. -/
theorem cellsOf_row {texts cells : List String} (h : List.Forall₂ Shows texts cells) (hne : texts ≠ [])
    (hplain : ∀ s ∈ texts, Plain s) : cellsOf (row cells) = texts := by
  have hcells : cells ≠ [] := by
    rintro rfl
    cases h
    exact hne rfl
  have hbar : ∀ cell ∈ [] :: ((cells.map fun c => " " ++ c ++ " ").map String.toList ++ [[]]),
      '|' ∉ cell := by
    intro cell hcell hmem
    rcases List.mem_cons.mp hcell with rfl | hcell
    · cases hmem
    · rcases List.mem_append.mp hcell with hcell | hcell
      · rw [List.map_map, List.mem_map] at hcell
        obtain ⟨c, hc, rfl⟩ := hcell
        obtain ⟨i, hi, rfl⟩ := List.mem_iff_getElem.mp hc
        have hi' : i < texts.length := h.length_eq ▸ hi
        exact bar_not_mem_padded (h.get hi' hi) (hplain _ (List.get_mem _ _)) hmem
      · rw [List.mem_singleton.mp hcell] at hmem
        cases hmem
  unfold cellsOf
  rw [toList_row hcells, List.splitOn_intercalate '|' hbar (List.cons_ne_nil _ _), List.drop_one,
    List.tail_cons, List.dropLast_concat, List.map_map, List.map_map]
  exact map_trimBlanks_padded h hplain

lemma Column.exists_laidOut (c : Column) :
    ∃ cell : String → String, c.laidOut.1 = c.cells.map cell ∧ ∀ s, Shows s (cell s) := by
  unfold laidOut
  cases c.numeric with
  | false => exact ⟨_, rfl, shows_padRight _⟩
  | true =>
    refine ⟨_, List.map_map, ?_⟩
    intro s
    exact (shows_padRight _ s).trans (shows_padLeft _ _)

lemma rows_map (records : List α) (cells : List (α → String)) :
    rows records.length (cells.map fun f => records.map f) =
      records.map fun r => cells.map fun f => f r := by
  induction records with
  | nil => rfl
  | cons r rest ih =>
    have hheads : (cells.map fun f => (r :: rest).map f).filterMap List.head? =
        cells.map fun f => f r := by
      rw [List.filterMap_map, ← List.filterMap_eq_map]
      rfl
    have htails : (cells.map fun f => (r :: rest).map f).map List.tail =
        cells.map fun f => rest.map f := by
      rw [List.map_map]
      rfl
    rw [List.length_cons, rows, hheads, htails, ih]
    rfl

lemma exists_cells {records : List α} {columns : List Column} {texts : List (α → String)}
    (h : List.Forall₂ (fun c f => c.cells = records.map f) columns texts) :
    ∃ cells : List (α → String),
      columns.map (fun c => c.laidOut.1) = cells.map (fun f => records.map f) ∧
        ∀ r, List.Forall₂ (fun f cell => Shows (f r) (cell r)) texts cells := by
  induction h with
  | nil => exact ⟨[], rfl, fun _ => .nil⟩
  | @cons c f _ _ hc _ ih =>
    obtain ⟨cells, hcells, hshow⟩ := ih
    obtain ⟨cell, hlaid, hcell⟩ := c.exists_laidOut
    refine ⟨(fun r => cell (f r)) :: cells, ?_, fun r => .cons (hcell (f r)) (hshow r)⟩
    rw [List.map_cons, List.map_cons, hcells, hlaid, hc, List.map_map]
    rfl

/-- A table of records has three lines at its head and then two for each record, in their order: one that
shows its texts, and a rule. -/
theorem exists_grid {records : List α} {columns : List Column} {texts : List (α → String)}
    (h : List.Forall₂ (fun c f => c.cells = records.map f) columns texts) :
    ∃ (top headings under rule : String) (cells : α → List String),
      grid records.length columns =
        top :: headings :: under :: records.flatMap (fun r => [row (cells r), rule]) ∧
      ∀ r, List.Forall₂ Shows (texts.map fun f => f r) (cells r) := by
  obtain ⟨cells, hcells, hshow⟩ := exists_cells h
  have hlaid : (columns.map Column.laidOut).map (·.1) = cells.map fun f => records.map f := by
    rw [List.map_map]
    exact hcells
  let widths := ((columns.map Column.laidOut).map (·.2)).map String.length
  refine ⟨rule '-' widths, row ((columns.map Column.laidOut).map (·.2)), rule '=' widths,
    rule '-' widths, fun r => cells.map fun f => f r, ?_, ?_⟩
  · unfold grid
    dsimp only
    rw [hlaid, rows_map, List.flatMap_map]
  · intro r
    rw [List.forall₂_map_left_iff, List.forall₂_map_right_iff]
    exact hshow r

end TickWalk.Table
