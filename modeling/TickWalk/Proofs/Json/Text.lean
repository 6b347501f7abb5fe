import TickWalk.Proofs.Json.Grammar
import TickWalk.Proofs.Text.Hex

/-!
# Written text reads back

A character is written as itself, behind a backslash, or as one or two sixteen-bit units. Each way is
read as pieces that join to the character again, whatever stands behind it: a unit of its own is no half
of a pair, and the two halves of a pair follow one another.
-/

namespace TickWalk.Json

open Text

variable {c : Char} {s : List Char} {n : Nat}

/-- How a character may be written, and what pieces it is read as. -/
inductive WrittenAs (c : Char) : List Char → List Piece → Prop
  | short {letter : Char} (h : (c, letter) ∈ shortEscapes) : WrittenAs c ['\\', letter] [.char c]
  | plain (hlow : ' ' ≤ c) (hhigh : c ≤ '~') (hquote : c ≠ '"') (hslash : c ≠ '\\') :
      WrittenAs c [c] [.char c]
  | unit (h : c.toNat < 0x10000) : WrittenAs c (unitEscape c.toNat) [.unit c.toNat]
  | pair (h : 0x10000 ≤ c.toNat) :
      WrittenAs c
        (unitEscape (0xd800 + (c.toNat - 0x10000) / 0x400) ++
          unitEscape (0xdc00 + (c.toNat - 0x10000) % 0x400))
        [.unit (0xd800 + (c.toNat - 0x10000) / 0x400),
          .unit (0xdc00 + (c.toNat - 0x10000) % 0x400)]

lemma exists_writtenAs (c : Char) : ∃ ps, WrittenAs c (writeChar c) ps := by
  unfold writeChar
  cases hshort : shortEscapes.lookup c with
  | some letter =>
    have hmem : (c, letter) ∈ shortEscapes := by
      obtain ⟨before, after, hsplit, -⟩ := List.lookup_eq_some_iff.mp hshort
      rw [hsplit]
      exact List.mem_append_right before List.mem_cons_self
    exact ⟨_, .short hmem⟩
  | none =>
    have hother := List.lookup_eq_none_iff.mp hshort
    have hquote : c ≠ '"' := by
      have := hother ('"', '"') (by decide)
      simpa using this
    have hslash : c ≠ '\\' := by
      have := hother ('\\', '\\') (by decide)
      simpa using this
    dsimp only
    split
    · rename_i hplain
      rw [Bool.and_eq_true, decide_eq_true_eq, decide_eq_true_eq] at hplain
      exact ⟨_, .plain hplain.1 hplain.2 hquote hslash⟩
    · split
      · exact ⟨_, .unit ‹_›⟩
      · exact ⟨_, .pair (Nat.not_lt.mp ‹_›)⟩

/-! ### Units -/

lemma unitEscape_eq (h : n < 0x10000) : ∃ a b d e, unitEscape n = ['\\', 'u', a, b, d, e] ∧
    unit? a b d e = some n ∧ ∀ x ∈ [a, b, d, e], x ∈ "0123456789abcdef".toList := by
  refine ⟨_, _, _, _, congrArg (fun ds => '\\' :: 'u' :: ds) (hexDigits_four h), ?_, ?_⟩
  · unfold unit?
    rw [hexValue?_digitChar _ (by omega), hexValue?_digitChar _ (by omega),
      hexValue?_digitChar _ (by omega), hexValue?_digitChar _ (by omega)]
    change some _ = some n
    congr 1
    omega
  · simp only [List.forall_mem_cons]
    exact ⟨digitChar_mem _ (by omega), digitChar_mem _ (by omega), digitChar_mem _ (by omega),
      digitChar_mem _ (by omega), List.forall_mem_nil _⟩

lemma pieces_unitEscape (h : n < 0x10000) (s : List Char) :
    pieces (unitEscape n ++ s) = (pieces s).map fun p => (.unit n :: p.1, p.2) := by
  obtain ⟨a, b, d, e, hunit, hvalue, -⟩ := unitEscape_eq h
  rw [hunit]
  change pieces ('\\' :: 'u' :: a :: b :: d :: e :: s) = _
  rw [pieces, hvalue]
  cases pieces s <;> rfl

lemma characters_unitEscape (h : n < 0x10000) (hs : Characters s) :
    Characters (unitEscape n ++ s) := by
  obtain ⟨a, b, d, e, hunit, -, hdigits⟩ := unitEscape_eq h
  rw [hunit]
  have hvalues : ∀ x ∈ "0123456789abcdef".toList, (hexValue? x).isSome :=
    List.all_iff_forall_prop.mp (by decide)
  exact .unit rfl (fun x hx => hvalues x (hdigits x hx)) hs

lemma ascii_unitEscape (h : n < 0x10000) : ∀ d ∈ unitEscape n, d.toNat < 128 := by
  obtain ⟨a, b, d, e, hunit, -, hdigits⟩ := unitEscape_eq h
  rw [hunit, List.forall_mem_cons, List.forall_mem_cons]
  have hascii : ∀ x ∈ "0123456789abcdef".toList, x.toNat < 128 :=
    List.all_iff_forall_prop.mp (by decide)
  exact ⟨by decide, by decide, fun x hx => hascii x (hdigits x hx)⟩

lemma not_half (c : Char) : c.toNat < 0xd800 ∨ 0xe000 ≤ c.toNat := by
  obtain h | h := c.valid
  · exact .inl h
  · exact .inr h.1

lemma toNat_le_max (c : Char) : c.toNat < 0x110000 := by
  obtain h | h := c.valid
  · exact Nat.lt_trans h (by decide)
  · exact h.2

lemma ofUnit?_toNat (c : Char) : ofUnit? c.toNat = some c := by
  have hwhole : ¬ (decide (0xd800 ≤ c.toNat) && decide (c.toNat < 0xe000)) = true := by
    rw [Bool.and_eq_true, decide_eq_true_eq, decide_eq_true_eq]
    have := not_half c
    omega
  rw [ofUnit?, if_neg hwhole, Char.ofNat_toNat]

lemma join_unit (c : Char) (ps : List Piece) :
    join (.unit c.toNat :: ps) = (join ps).map (c :: ·) := by
  have halone : join (.unit c.toNat :: ps) =
      (ofUnit? c.toNat).bind fun d => (join ps).map (d :: ·) := by
    match ps with
    | [] => rfl
    | .char _ :: _ => rfl
    | .unit m :: more =>
      have hwhole : ¬ (decide (0xd800 ≤ c.toNat) && decide (c.toNat < 0xdc00) &&
          decide (0xdc00 ≤ m) && decide (m < 0xe000)) = true := by
        rw [Bool.and_eq_true, Bool.and_eq_true, Bool.and_eq_true, decide_eq_true_eq,
          decide_eq_true_eq, decide_eq_true_eq, decide_eq_true_eq]
        have := not_half c
        omega
      rw [join, if_neg hwhole]
      rfl
  rw [halone, ofUnit?_toNat]
  rfl

lemma join_pair (h : 0x10000 ≤ c.toNat) (ps : List Piece) :
    join (.unit (0xd800 + (c.toNat - 0x10000) / 0x400) ::
      .unit (0xdc00 + (c.toNat - 0x10000) % 0x400) :: ps) = (join ps).map (c :: ·) := by
  have hmax := toNat_le_max c
  have hpair : (decide (0xd800 ≤ 0xd800 + (c.toNat - 0x10000) / 0x400) &&
      decide (0xd800 + (c.toNat - 0x10000) / 0x400 < 0xdc00) &&
      decide (0xdc00 ≤ 0xdc00 + (c.toNat - 0x10000) % 0x400) &&
      decide (0xdc00 + (c.toNat - 0x10000) % 0x400 < 0xe000)) = true := by
    rw [Bool.and_eq_true, Bool.and_eq_true, Bool.and_eq_true, decide_eq_true_eq, decide_eq_true_eq,
      decide_eq_true_eq, decide_eq_true_eq]
    omega
  have hvalue : 0x10000 + (0xd800 + (c.toNat - 0x10000) / 0x400 - 0xd800) * 0x400 +
      (0xdc00 + (c.toNat - 0x10000) % 0x400 - 0xdc00) = c.toNat := by omega
  rw [join, if_pos hpair, hvalue, Char.ofNat_toNat]

/-! ### Characters -/

namespace WrittenAs

variable {text : List Char} {ps : List Piece}

lemma pieces_append (h : WrittenAs c text ps) (s : List Char) :
    pieces (text ++ s) = (pieces s).map fun p => (ps ++ p.1, p.2) := by
  cases h with
  | short h =>
    simp only [shortEscapes, List.mem_cons, Prod.mk.injEq, List.not_mem_nil, or_false] at h
    rcases h with ⟨rfl, rfl⟩ | ⟨rfl, rfl⟩ | ⟨rfl, rfl⟩ | ⟨rfl, rfl⟩ | ⟨rfl, rfl⟩ | ⟨rfl, rfl⟩ |
      ⟨rfl, rfl⟩ <;> cases hs : pieces s <;> simp [pieces, hs] <;> rfl
  | plain hlow _ hquote hslash =>
    change pieces (c :: s) = _
    rw [pieces.eq_5 c s hquote (fun _ _ _ _ _ h => absurd h hslash) (fun _ _ h => absurd h hslash),
      if_neg (Char.not_lt.mpr hlow)]
    cases pieces s <;> rfl
  | unit h => exact pieces_unitEscape h s
  | pair h =>
    have hmax := toNat_le_max c
    rw [List.append_assoc, pieces_unitEscape (by omega), pieces_unitEscape (by omega), Option.map_map]
    rfl

lemma join_append (h : WrittenAs c text ps) (more : List Piece) :
    join (ps ++ more) = (join more).map (c :: ·) := by
  cases h with
  | short => rfl
  | plain => rfl
  | unit => exact join_unit c more
  | pair h => exact join_pair h more

lemma characters_append (h : WrittenAs c text ps) (hs : Characters s) : Characters (text ++ s) := by
  cases h with
  | short h =>
    have hletters : ∀ p ∈ shortEscapes, p.2 ∈ ['"', '\\', '/', 'b', 'f', 'n', 'r', 't'] := by decide
    exact .short (hletters _ h) hs
  | plain hlow _ hquote hslash => exact .plain hlow hquote hslash hs
  | unit h => exact characters_unitEscape h hs
  | pair h =>
    have hmax := toNat_le_max c
    rw [List.append_assoc]
    exact characters_unitEscape (by omega) (characters_unitEscape (by omega) hs)

lemma ascii (h : WrittenAs c text ps) : ∀ d ∈ text, d.toNat < 128 := by
  cases h with
  | short h =>
    have hletters : ∀ p ∈ shortEscapes, p.2.toNat < 128 := by decide
    rw [List.forall_mem_cons, List.forall_mem_singleton]
    exact ⟨by decide, hletters _ h⟩
  | plain _ hhigh =>
    rw [List.forall_mem_singleton]
    exact Nat.lt_of_le_of_lt hhigh (by decide)
  | unit h => exact ascii_unitEscape h
  | pair h =>
    have hmax := toNat_le_max c
    rw [List.forall_mem_append]
    exact ⟨ascii_unitEscape (by omega), ascii_unitEscape (by omega)⟩

end WrittenAs

/-! ### Texts -/

lemma exists_pieces (cs : List Char) : ∃ ps, join ps = some cs ∧
    ∀ rest, pieces (cs.flatMap writeChar ++ '"' :: rest) = some (ps, rest) := by
  induction cs with
  | nil => exact ⟨[], rfl, fun rest => pieces.eq_2 rest⟩
  | cons c cs ih =>
    obtain ⟨ps, hjoin, hpieces⟩ := ih
    obtain ⟨here, hc⟩ := exists_writtenAs c
    refine ⟨here ++ ps, ?_, ?_⟩
    · rw [hc.join_append, hjoin]
      rfl
    · intro rest
      rw [List.flatMap_cons, List.append_assoc, hc.pieces_append, hpieces rest]
      rfl

/-- A text reads back from what stands between its quotes. -/
theorem readText_flatMap (s : String) (rest : List Char) :
    readText (s.toList.flatMap writeChar ++ '"' :: rest) = some (s, rest) := by
  obtain ⟨ps, hjoin, hpieces⟩ := exists_pieces s.toList
  unfold readText
  rw [hpieces rest]
  change (join ps >>= fun cs => some (String.ofList cs, rest)) = _
  rw [hjoin]
  exact congrArg (fun s => some (s, rest)) s.ofList_toList

lemma characters_flatMap (cs : List Char) : Characters (cs.flatMap writeChar) := by
  induction cs with
  | nil => exact .nil
  | cons c cs ih =>
    obtain ⟨ps, hc⟩ := exists_writtenAs c
    exact hc.characters_append ih

lemma writeText_eq (s : String) : writeText s = '"' :: s.toList.flatMap writeChar ++ ['"'] := rfl

lemma ascii_writeText (s : String) : ∀ c ∈ writeText s, c.toNat < 128 := by
  rw [writeText_eq, List.cons_append, List.forall_mem_cons, List.forall_mem_append,
    List.forall_mem_singleton]
  refine ⟨by decide, ?_, by decide⟩
  intro d hd
  obtain ⟨c, -, hd⟩ := List.mem_flatMap.mp hd
  obtain ⟨ps, hc⟩ := exists_writtenAs c
  exact hc.ascii d hd

lemma isValue_writeText (s : String) : IsValue (writeText s) := .text (characters_flatMap s.toList)

end TickWalk.Json
