import TickWalk.Chain.StateView
import TickWalk.Proofs.Bitmap.Search
import TickWalk.Proofs.Chain.Node
import TickWalk.Proofs.Course
import TickWalk.Proofs.Failure

/-!
# Reads of the view

Every call that a scan of pool ticks makes has arguments that fit their types: a tick is of 24 bits and
its word of 16. A view of a node without faults therefore answers such reads with what the node holds
at the block, whichever way its transport goes.
-/

namespace TickWalk

variable {spacing cursor : Int} {d : Direction}

lemma Abi.fits_16_iff {i : Int} : fits 16 i = true ↔ -32768 ≤ i ∧ i < 32768 := by
  have hhalf : ((Nat.pow 2 (16 - 1) : Nat) : Int) = 32768 := rfl
  simp only [fits, hhalf, Bool.and_eq_true, decide_eq_true_eq]

lemma Abi.fits_24_iff {i : Int} : fits 24 i = true ↔ -8388608 ≤ i ∧ i < 8388608 := by
  have hhalf : ((Nat.pow 2 (24 - 1) : Nat) : Int) = 8388608 := rfl
  simp only [fits, hhalf, Bool.and_eq_true, decide_eq_true_eq]

lemma Abi.isShort_of_fits {i : Int} (h : fits 24 i = true) : (Value.int i).isShort = true := by
  rw [fits_24_iff] at h
  have hsmall : i.natAbs < Nat.pow 10 7 := by
    change i.natAbs < 10000000
    omega
  exact Value.isShort_int_iff.mpr (Text.short_of_lt (by decide) (by decide) hsmall)

lemma Abi.fits_24_of_16 {i : Int} (h : fits 16 i = true) : fits 24 i = true := by
  rw [fits_16_iff] at h
  rw [fits_24_iff]
  omega

/-- The word of a compressed tick has 16 bits exactly when the compressed tick has 24. -/
lemma Bitmap.fits_word_iff (c : Int) :
    Abi.fits 16 (position c).word = true ↔ Abi.fits 24 c = true := by
  rw [Abi.fits_16_iff, Abi.fits_24_iff]
  simp only [position, wordSize]
  omega

/-- Rounding down brings a cursor nearer to zero, or to minus one, and never across. -/
lemma Bitmap.fits_firstCompressed (hpos : 0 < spacing) (hcursor : Abi.fits 24 cursor = true)
    (hnext : Abi.fits 24 (cursor + 1) = true) (d : Direction) :
    Abi.fits 24 (firstCompressed d spacing cursor) = true := by
  rw [Abi.fits_24_iff] at hcursor hnext ⊢
  have hrange : min cursor (-1) ≤ cursor / spacing ∧ cursor / spacing ≤ max cursor (-1) := by
    rcases lt_or_ge cursor 0 with hneg | hnonneg
    · have hbelow := Int.ediv_neg_of_neg_of_pos hneg hpos
      have hself : cursor ≤ cursor / spacing := by
        apply (Int.le_ediv_iff_mul_le hpos).mpr
        nlinarith
      omega
    · have hzero := Int.ediv_nonneg hnonneg hpos.le
      have hself := Int.ediv_le_self spacing hnonneg
      omega
  cases d with
  | inclusive =>
    simp only [firstCompressed]
    omega
  | exclusive =>
    simp only [firstCompressed]
    omega

lemma KeyDomain.fits_tick {t : Int} (h : KeyDomain.ticks.contains t = true) :
    Abi.fits 24 t = true := by
  have hbounds : -887272 ≤ t ∧ t ≤ 887272 := contains_iff.mp h
  rw [Abi.fits_24_iff]
  omega

lemma Bitmap.Probe.exists_fits_word (hpos : 0 < spacing)
    (hcursor : KeyDomain.ticks.contains cursor = true) (d : Direction) :
    ∃ probe, at? d spacing cursor = .ok probe ∧ Abi.fits 16 probe.word = true := by
  have hbounds : -887272 ≤ cursor ∧ cursor ≤ 887272 := KeyDomain.contains_iff.mp hcursor
  have hnext : Abi.fits 24 (cursor + 1) = true := by
    rw [Abi.fits_24_iff]
    omega
  have hfirst := fits_firstCompressed hpos (KeyDomain.fits_tick hcursor) hnext d
  exact ⟨_, at?_of_pos hpos d cursor, (fits_word_iff _).mpr hfirst⟩

lemma Transport.admits_of_fits (t : Transport) {c : Call} (h : c.fits = true) :
    t.admits c = .ok () := by
  cases t with
  | direct => rfl
  | endpoint url =>
    unfold admits
    rw [if_pos h]

namespace StateView

variable {v : StateView} {node : Node} {block : Nat}

lemma block_int (block : Nat) : StateView.block (.int block) = .ok block := rfl

lemma quiet_call {c : Call} (label : String) (hfits : c.fits = true)
    (hfault : ∀ count, node.pool.faultOf? c.question count = none) (block : Nat) :
    (v.call label c block).Quiet node (c.answer block node.pool)
      ⟨node.pool, c.question :: node.asked⟩ := by
  unfold call
  rw [v.transport.admits_of_fits hfits, Action.lift_ok_bind]
  have hread : (v.transport.call v.contract v.pool c block).Quiet node (c.answer block node.pool)
      ⟨node.pool, c.question :: node.asked⟩ := by
    apply (Action.quiet_note rfl node).bind
    exact Node.quiet_ask hfault rfl
  apply hread.attempt.bind
  exact Action.quiet_lift _ _

lemma quiet_word {n : Int} (hfits : Abi.fits 16 n = true)
    (hfault : ∀ count, node.pool.faultOf? .word count = none) :
    (v.word (.int block) (.int n)).Quiet node (node.pool.wordAt block n)
      ⟨node.pool, .word :: node.asked⟩ := by
  have hshort := Abi.isShort_of_fits (Abi.fits_24_of_16 hfits)
  unfold word
  rw [block_int, Action.lift_ok_bind, Text.composed_singleton hshort,
    Action.lift_ok_bind, Value.toInteger_int, Action.lift_ok_bind]
  have hcall := quiet_call (v := v) s!"getTickBitmap({(Value.int n).display})"
    (c := .word n) hfits hfault block
  apply hcall.bind
  exact Action.quiet_lift _ _

lemma find_eq (v : StateView) (snapshot cursor spacing : Value) (d : Direction) :
    v.find snapshot cursor d spacing = (do
      let block ← Action.lift (StateView.block snapshot)
      let probe ← Action.lift (Bitmap.Probe.ofValues d spacing cursor)
      let word ← v.word (.int block) (.int probe.word)
      pure (probe.answerValue word)) := by
  unfold find
  simp only [Bitmap.search_action, bind_assoc, pure_bind, Bitmap.Probe.answerValue]

lemma quiet_find (block : Nat) (hpos : 0 < spacing)
    (hcursor : KeyDomain.ticks.contains cursor = true)
    (hfault : ∀ count, node.pool.faultOf? .word count = none) (d : Direction) :
    ∃ probe, Bitmap.Probe.at? d spacing cursor = .ok probe ∧
      (v.find (.int block) (.int cursor) d (.int spacing)).Quiet node
        (probe.answerValue (node.pool.wordAt block probe.word)) ⟨node.pool, .word :: node.asked⟩ := by
  obtain ⟨probe, hprobe, hfits⟩ := Bitmap.Probe.exists_fits_word hpos hcursor d
  refine ⟨probe, hprobe, ?_⟩
  rw [find_eq, block_int, Action.lift_ok_bind, Bitmap.Probe.ofValues_int, hprobe,
    Action.lift_ok_bind]
  apply (quiet_word hfits hfault).bind
  exact Action.quiet_lift _ _

lemma quiet_fetch {t : Int} {l : Liquidity} (ht : KeyDomain.ticks.contains t = true)
    (hfault : ∀ count, node.pool.faultOf? .liquidity count = none)
    (hliquidity : node.pool.liquidityAt block t = .list [.int l.gross, .int l.net]) :
    (v.fetch (.int block) (.int t)).Quiet node (.list [.int l.gross, .int l.net])
      ⟨node.pool, .liquidity :: node.asked⟩ := by
  have hshort := Abi.isShort_of_fits (KeyDomain.fits_tick ht)
  unfold fetch
  rw [block_int, Action.lift_ok_bind, Text.composed_singleton hshort,
    Action.lift_ok_bind, Value.toInteger_int, Action.lift_ok_bind]
  have hcall := quiet_call (v := v) s!"getTickLiquidity({(Value.int t).display})"
    (c := .liquidity t) (KeyDomain.fits_tick ht) hfault block
  apply hcall.bind
  change (Action.lift (node.pool.liquidityAt block t).pair >>= _).Quiet _ _ _
  rw [hliquidity, Value.pair_list, Action.lift_ok_bind]
  exact Action.quiet_lift _ _

lemma quiet_version (block : Nat) (node : Node) :
    (version (.int block)).Quiet node (.int block) node := by
  unfold version
  rw [block_int, Action.lift_ok_bind]
  exact Action.quiet_lift _ node

end StateView

end TickWalk
