import TickWalk.Json.Write
import TickWalk.Proofs.Action
import TickWalk.Proofs.Json.Value

/-!
# Written values read back

A value made of nothing, truth values, integers, texts, lists and maps that name each field once is
written in every layout, unless one of its integers is too long. What is written represents the value.
-/

namespace TickWalk

/-- Values that JSON can tell, with integers of the kind `S`; a map names each of its fields once. -/
inductive Value.Plain (S : Int → Prop) : Value → Prop
  | null : Plain S .null
  | bool (b : Bool) : Plain S (.bool b)
  | int {i : Int} (h : S i) : Plain S (.int i)
  | text (s : String) : Plain S (.text s)
  | list {vs : List Value} (h : ∀ v ∈ vs, Plain S v) : Plain S (.list vs)
  | map {fields : List (String × Value)} (hnames : (fields.map Prod.fst).Nodup)
      (h : ∀ f ∈ fields, Plain S f.2) : Plain S (.map fields)

lemma Value.plain_int_iff {S : Int → Prop} {i : Int} : (Value.int i).Plain S ↔ S i :=
  ⟨fun h => by cases h; assumption, .int⟩

lemma Value.plain_list_iff {S : Int → Prop} {vs : List Value} :
    (Value.list vs).Plain S ↔ ∀ v ∈ vs, v.Plain S :=
  ⟨fun h => by cases h; assumption, .list⟩

lemma Value.plain_map_iff {S : Int → Prop} {fields : List (String × Value)}
    (hnames : (fields.map Prod.fst).Nodup) :
    (Value.map fields).Plain S ↔ ∀ f ∈ fields, f.2.Plain S :=
  ⟨fun h => by cases h; assumption, .map hnames⟩

namespace Json

variable {S : Int → Prop} {l : Layout} {v : Value} {vs : List Value}
  {fields : List (String × Value)} {text : List Char}

/-- The result of writing: a text with `P` if the integers to be written are short, which is what `C`
says, and otherwise a refusal of their digits. -/
inductive WritesIf (C : Prop) (P : List Char → Prop) : Except Failure (List Char) → Prop
  | written {text : List Char} (hC : C) (hP : P text) : WritesIf C P (.ok text)
  | refused (hC : ¬ C) : WritesIf C P (.error (.tooManyDigits none))

lemma WritesIf.congr {C D : Prop} {P : List Char → Prop} {x : Except Failure (List Char)}
    (h : WritesIf C P x) (hiff : C ↔ D) : WritesIf D P x := by
  cases h with
  | written hC htext => exact .written (hiff.mp hC) htext
  | refused hC => exact .refused (mt hiff.mpr hC)

lemma WritesIf.bind {C D : Prop} {P Q R : List Char → Prop} {x y : Except Failure (List Char)}
    {f : List Char → List Char → List Char} (hx : WritesIf C P x) (hy : WritesIf D Q y)
    (hf : ∀ a b, P a → Q b → R (f a b)) :
    WritesIf (C ∧ D) R (do
      let a ← x
      let b ← y
      .ok (f a b)) := by
  cases hx with
  | refused hC => exact .refused fun h => hC h.1
  | written hC ha =>
    cases hy with
    | refused hD => exact .refused fun h => hD h.2
    | written hD hb => exact .written ⟨hC, hD⟩ (hf _ _ ha hb)

/-- The parts of a value are written faithfully at every depth. -/
def WritesFaithfully (l : Layout) (v : Value) : Prop :=
  ∀ depth, WritesIf (v.Plain Text.Short) (Faithful v) (writeAt l depth v)

lemma writesIf_items (hl : l.Blank) (depth : Nat) (h : ∀ v ∈ vs, WritesFaithfully l v) :
    WritesIf (∀ v ∈ vs, v.Plain Text.Short) (FaithfulItems vs) (writeItems l depth vs) := by
  induction vs with
  | nil => exact .written (List.forall_mem_nil _) faithfulItems_nil
  | cons v vs ih =>
    rw [List.forall_mem_cons] at h
    rw [writeItems]
    exact ((h.1 depth).bind (ih h.2) fun _ _ hv hvs => faithfulItems_cons hl depth hv hvs).congr
      List.forall_mem_cons.symm

lemma writesIf_fields (hl : l.Blank) (depth : Nat) (h : ∀ f ∈ fields, WritesFaithfully l f.2) :
    WritesIf (∀ f ∈ fields, f.2.Plain Text.Short) (FaithfulFields fields)
      (writeFields l depth fields) := by
  induction fields with
  | nil => exact .written (List.forall_mem_nil _) faithfulFields_nil
  | cons f fields ih =>
    rw [List.forall_mem_cons] at h
    rw [writeFields]
    exact ((h.1 depth).bind (ih h.2) fun _ _ hv hfields =>
      faithfulFields_cons hl depth hv hfields).congr (by rw [List.forall_mem_cons])

lemma writesIf_int (i : Int) (depth : Nat) :
    WritesIf ((Value.int i).Plain Text.Short) (Faithful (.int i)) (writeAt l depth (.int i)) := by
  rw [writeAt]
  by_cases hshort : Text.Short i
  · rw [Value.integerText_of_short hshort, ok_bind, String.toList_ofList]
    exact .written (.int hshort) (faithful_int i)
  · rw [Value.integerText_of_not_short hshort]
    exact .refused (mt Value.plain_int_iff.mp hshort)

/-- A plain value is written at every depth exactly when its integers are short. -/
theorem writesFaithfully (h : v.Plain S) (hl : l.Blank) : WritesFaithfully l v := by
  induction h with
  | null =>
    intro depth
    rw [writeAt]
    exact .written .null faithful_null
  | bool b =>
    intro depth
    cases b with
    | true =>
      rw [writeAt]
      exact .written (.bool true) faithful_true
    | false =>
      rw [writeAt]
      exact .written (.bool false) faithful_false
  | int _ => exact writesIf_int _
  | text s =>
    intro depth
    rw [writeAt]
    exact .written (.text s) (faithful_text s)
  | @list vs _ ih =>
    intro depth
    cases vs with
    | nil =>
      rw [writeAt]
      exact .written (.list (List.forall_mem_nil _)) faithful_noItems
    | cons v vs =>
      rw [List.forall_mem_cons] at ih
      rw [writeAt]
      exact ((ih.1 (depth + 1)).bind (writesIf_items hl (depth + 1) ih.2)
        fun _ _ hv hvs => faithful_list hl depth hv hvs).congr
        (List.forall_mem_cons.symm.trans Value.plain_list_iff.symm)
  | @map fields hnames _ ih =>
    intro depth
    cases fields with
    | nil =>
      rw [writeAt]
      exact .written (.map hnames (List.forall_mem_nil _)) faithful_noFields
    | cons f fields =>
      rw [List.forall_mem_cons] at ih
      rw [writeAt]
      exact ((ih.1 (depth + 1)).bind (writesIf_fields hl (depth + 1) ih.2)
        fun _ _ hv hfields => faithful_map hl depth hv hfields hnames).congr
        (List.forall_mem_cons.symm.trans (Value.plain_map_iff hnames).symm)

/-- The text is ASCII, a value of the grammar, and read as the value `v`. -/
structure Represents (s : String) (v : Value) : Prop where
  ascii : Ascii s
  valid : Valid s
  reads : read? s = some v

lemma Faithful.represents (h : Faithful v text) : Represents (String.ofList text) v where
  ascii := by
    unfold Ascii
    rw [String.toList_ofList]
    exact h.ascii
  valid := by
    have hpadded := IsElement.padded blanks_nil h.valid blanks_nil
    unfold Valid
    rw [String.toList_ofList]
    rwa [List.nil_append, List.append_nil] at hpadded
  reads := by
    have hread := h.reads (text.length + 1) [] (Nat.lt_succ_self _) stops_nil
    have hstart := h.skipBlanks_append []
    rw [List.append_nil] at hread hstart
    unfold read?
    rw [String.length_ofList, String.toList_ofList, hstart, hread]
    rfl

/-- A plain value with short integers has a text in every layout, which represents it. -/
theorem exists_write (h : v.Plain Text.Short) (hl : l.Blank) :
    ∃ s, write l v = .ok s ∧ Represents s v := by
  have hwrites := writesFaithfully h hl 0
  unfold write
  generalize writeAt l 0 v = x at hwrites
  cases hwrites with
  | written _ htext => exact ⟨_, rfl, htext.represents⟩
  | refused hlong => exact absurd h hlong

lemma short_of_write {s : String} (h : v.Plain S) (hl : l.Blank) (hs : write l v = .ok s) :
    v.Plain Text.Short := by
  obtain ⟨text, htext, -⟩ := exists_of_bind_ok hs
  have hwrites := writesFaithfully h hl 0
  rw [htext] at hwrites
  cases hwrites with
  | written hshort => exact hshort

lemma represents_of_write {s : String} (h : v.Plain S) (hl : l.Blank) (hs : write l v = .ok s) :
    Represents s v := by
  obtain ⟨s', hs', hrepresents⟩ := exists_write (short_of_write h hl hs) hl
  obtain rfl := Except.ok.inj (hs.symm.trans hs')
  exact hrepresents

lemma eq_tooManyDigits_of_write {e : Failure} (h : v.Plain S) (hl : l.Blank)
    (hs : write l v = .error e) : e = .tooManyDigits none := by
  have hwrites := writesFaithfully h hl 0
  unfold write at hs
  generalize writeAt l 0 v = x at hwrites hs
  cases hwrites with
  | written => cases hs
  | refused => exact (Except.error.inj hs).symm

end Json

end TickWalk
