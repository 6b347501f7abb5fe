import TickWalk.Chain.Node
import TickWalk.Proofs.Agreement
import TickWalk.Proofs.Store.Commit

/-!
# Nodes that hold a map of ticks

A node holds a map of ticks at a block when it tells the bitmap of the map and its liquidity there, and
does not fail. A node that has been given the ticks of the map makes the bitmap up itself, one bit
after the other, and holds it.
-/

namespace TickWalk

variable {pool : Pool} {block spacing : Int} {entries : Keyed Liquidity}

/-- What a map stores at a tick, nothing where it has no tick. -/
def Keyed.liquidityAt (entries : Keyed Liquidity) (t : Int) : Liquidity := (entries.get? t).getD ⟨0, 0⟩

/-- At the block the pool answers with the bitmap of the map and with its liquidity. -/
structure Pool.Holds (pool : Pool) (block spacing : Int) (entries : Keyed Liquidity) : Prop where
  word : ∀ words, Bitmap.build spacing (entries.map (·.1)) = .ok words →
    ∀ n, pool.wordAt block n = words.get n
  liquidity : ∀ t, pool.liquidityAt block t =
    .list [.int (entries.liquidityAt t).gross, .int (entries.liquidityAt t).net]
  answersWord : ∀ count, pool.faultOf? .word count = none
  answersLiquidity : ∀ count, pool.faultOf? .liquidity count = none

/-- A tick of a map as a node is given it. -/
def NodeTick.ofEntry (e : Int × Liquidity) : NodeTick := ⟨e.1, .int e.2.gross, .int e.2.net⟩

namespace Pool

/-- Or-ing the bits of ticks into one word gives that word of the bitmap they make up. -/
lemma foldl_ofEntry {words words' : Words}
    (h : (entries.map (·.1)).foldlM (Bitmap.build.add spacing) words = .ok words') (n : Int) :
    (entries.map NodeTick.ofEntry).foldl (fun word t =>
      let p := Bitmap.position (t.tick.fdiv spacing)
      if p.word = n then word ||| 1 <<< p.bit else word) (words.get n) = words'.get n := by
  induction entries generalizing words with
  | nil =>
    rw [← Except.ok.inj h]
    rfl
  | cons e rest ih =>
    rw [List.map_cons, List.foldlM_cons] at h
    obtain ⟨middle, hadd, hrest⟩ := exists_of_bind_ok h
    obtain ⟨w, hw, -, rfl⟩ := Snapshot.addTick_ok ((Snapshot.addTick_int _ _ _).trans hadd)
    obtain rfl := Option.some.inj hw
    have hmark : (words.mark (Bitmap.position (e.1.fdiv spacing))).get n =
        if (Bitmap.position (e.1.fdiv spacing)).word = n then
          words.get n ||| 1 <<< (Bitmap.position (e.1.fdiv spacing)).bit else words.get n := by
      rw [Words.get_mark]
      by_cases hn : n = (Bitmap.position (e.1.fdiv spacing)).word
      · rw [if_pos hn, if_pos hn.symm, hn]
      · rw [if_neg hn, if_neg (Ne.symm hn)]
    rw [List.map_cons, List.foldl_cons, ← ih hrest, hmark]
    rfl

lemma find?_ofEntry (h : (entries.map (·.1)).Nodup) (t : Int) :
    ((entries.map NodeTick.ofEntry).reverse.find? (·.tick == t)) =
      (entries.get? t).map fun l => .ofEntry (t, l) := by
  induction entries with
  | nil => rfl
  | cons e rest ih =>
    -- The pool looks for the last of equal ticks and the map for the first; here no two are equal.
    rw [List.map_cons, List.nodup_cons] at h
    obtain ⟨n, l⟩ := e
    have hlast : ([NodeTick.ofEntry (n, l)].find? (·.tick == t)) =
        if t = n then some (.ofEntry (n, l)) else none := by
      by_cases hn : t = n
      · simp [NodeTick.ofEntry, hn]
      · simp [NodeTick.ofEntry, hn, Ne.symm hn]
    rw [List.map_cons, List.reverse_cons, List.find?_append, ih h.2, hlast, Keyed.get?_cons]
    by_cases hn : t = n
    · have hfree : Keyed.get? rest t = none := by
        rw [← Option.not_isSome_iff_eq_none, ← Keyed.mem_keys_iff, hn]
        exact h.1
      rw [hfree, if_pos hn, if_pos hn, hn]
      rfl
    · rw [if_neg hn, if_neg hn, Option.or_none]

/-- A pool that has been given the ticks of a map holds the map at every block that has no ticks of its
own. -/
theorem holds_of_ticks (hnodup : (entries.map (·.1)).Nodup) (hspacing : pool.spacing = spacing)
    (hwords : pool.words = none) (hticks : pool.ticksOf block = entries.map NodeTick.ofEntry)
    (hfaults : pool.faults = []) : pool.Holds block spacing entries := by
  have hreliable : ∀ q count, pool.faultOf? q count = none := by
    intro q count
    unfold faultOf?
    rw [hfaults]
    rfl
  refine ⟨?_, ?_, hreliable .word, hreliable .liquidity⟩
  · intro words hbuild n
    unfold wordAt
    rw [hwords, hticks, hspacing]
    exact congrArg Nat.cast (foldl_ofEntry hbuild n)
  · intro t
    unfold liquidityAt
    rw [hticks, find?_ofEntry hnodup]
    unfold Keyed.liquidityAt
    cases entries.get? t <;> rfl

end Pool

namespace Node

lemma quiet_ask {node : Node} {q : Question} {answer : Pool → Except Failure Value} {v : Value}
    (hfault : ∀ count, node.pool.faultOf? q count = none) (hanswer : answer node.pool = .ok v) :
    (ask q answer).Quiet node v ⟨node.pool, q :: node.asked⟩ := by
  unfold ask
  apply (Action.quiet_get node).bind
  have hset : (Action.set (⟨node.pool, q :: node.asked⟩ : Node)).Quiet node ()
      ⟨node.pool, q :: node.asked⟩ := ⟨rfl, rfl, rfl⟩
  apply hset.bind
  rw [hfault, hanswer]
  exact Action.quiet_lift v _

end Node

end TickWalk
