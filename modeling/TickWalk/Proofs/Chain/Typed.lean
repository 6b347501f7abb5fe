import TickWalk.Proofs.Chain.Questions
import TickWalk.Proofs.Document
import TickWalk.Proofs.Load.Records

/-!
# Pools with the types of the contract

A pool that tells what the types of the contract allow makes a view answer with records whose amounts can
be written, however many of them there are and however they are loaded.
-/

namespace TickWalk

/-- What a pool tells has the types of the contract: its active state, its bitmap words, and the
liquidity of every tick at every block. -/
structure Pool.Typed (pool : Pool) : Prop where
  slot0 : ∃ price tick protocolFee lpFee : Int,
    pool.slot0 = .list [.int price, .int tick, .int protocolFee, .int lpFee] ∧
      (0 ≤ price ∧ price < (Nat.pow 2 160 : Nat)) ∧ Abi.fits 24 tick = true ∧
      (0 ≤ protocolFee ∧ protocolFee < (Nat.pow 2 24 : Nat)) ∧
      (0 ≤ lpFee ∧ lpFee < (Nat.pow 2 24 : Nat))
  word : ∀ block number, 0 ≤ pool.wordAt block number ∧
    pool.wordAt block number < (Nat.pow 2 256 : Nat)
  liquidity : ∀ block t, ∃ gross net : Int, pool.liquidityAt block t = .list [.int gross, .int net] ∧
    (0 ≤ gross ∧ gross < (Nat.pow 2 128 : Nat)) ∧ Abi.fits 128 net = true

lemma TickRecord.writable_of_fits {gross net : Int} (hgross : gross.natAbs < Nat.pow 2 128)
    (hnet : Abi.fits 128 net = true) (flag : Bool) (t : Int) :
    Writable ⟨flag, t, gross, net⟩ := by
  have hbits : Nat.pow 2 128 ≤ Nat.pow 10 39 := by decide
  have hhalf : net.natAbs ≤ Nat.pow 2 127 := by
    rw [Abi.fits, Bool.and_eq_true, decide_eq_true_eq, decide_eq_true_eq] at hnet
    change -((Nat.pow 2 127 : Nat) : Int) ≤ net ∧ net < (Nat.pow 2 127 : Nat) at hnet
    omega
  have hnet' : net.natAbs < Nat.pow 10 39 := Nat.lt_of_le_of_lt hhalf (by decide)
  exact ⟨Text.short_of_lt (by decide) (by decide) (Nat.lt_of_lt_of_le hgross hbits),
    Text.short_of_lt (by decide) (by decide) hnet'⟩

lemma Action.Spares.serves {α : Type} {kinds : List Question} {x : Action Node α} {G : Pool → Prop}
    {Q : α → Prop} (hx : x.Spares kinds) (hQ : ∀ a, x.MayAnswer a → Q a) :
    x.Serves (fun node => G node.pool) Q := by
  intro node hgood
  exact ⟨Eq.subst (hx node).pool.symm hgood, fun a ha => hQ a ⟨node, ha⟩⟩

namespace StateView

variable {v : StateView} {G : Pool → Prop} {block : Nat}

lemma spares_find {kinds : List Question} (h : .word ∉ kinds) (v : StateView)
    (snapshot cursor spacing : Value) (d : Direction) :
    (v.find snapshot cursor d spacing).Spares kinds := by
  have hrules := Action.spares_compositional kinds
  have hword (snapshot number : Value) : (v.word snapshot number).Spares kinds := by
    unfold word
    apply hrules.bind (hrules.compute _)
    intro block _
    apply hrules.bind (hrules.compute _)
    intro label _
    apply hrules.bind (hrules.compute _)
    intro n _
    exact hrules.bind (spares_call h _) fun _ _ => hrules.compute _
  rw [find_eq]
  apply hrules.bind (hrules.compute _)
  intro block _
  apply hrules.bind (hrules.compute _)
  intro probe _
  exact hrules.bind (hword _ _) fun _ _ => hrules.pure _

lemma serves_call (label : String) (c : Call) :
    (v.call label c block).Serves (fun node => G node.pool) fun answer =>
      ∃ pool, G pool ∧ answer = c.answer block pool := by
  have hspares : (v.call label c block).Spares [] := spares_call List.not_mem_nil label
  intro node hgood
  exact ⟨Eq.subst (hspares node).pool.symm hgood,
    fun answer hanswer => ⟨node.pool, hgood, answer_of_call hanswer⟩⟩

/-- Over pools with the types of the contract a view answers with records whose amounts can be written. -/
theorem supplies (v : StateView) (domain : KeyDomain) (snapshot : Value) :
    v.provider.Supplies (fun node => node.pool.Typed) domain snapshot fun r =>
      domain.strictlyInside r.tick = true ∧ r.Writable := by
  constructor
  case find =>
    intro cursor d spacing
    have hfind : (v.provider.find snapshot cursor d spacing).Spares [] :=
      (Action.spares_compositional []).bind (Action.spares_note _) fun _ _ =>
        spares_find List.not_mem_nil v snapshot cursor spacing d
    exact hfind.serves fun _ => candidate_of_find
  case fetch =>
    intro t ht
    apply (Action.serves_note _).then
    rintro ⟨⟩
    change (v.fetch snapshot (.int t)).Serves _ _
    rw [fetch_int]
    apply (Action.serves_lift fun _ _ => trivial).then
    intro block
    apply (Action.serves_lift fun _ _ => trivial).then
    intro label
    apply (serves_call label (.liquidity t)).bind
    rintro _ ⟨pool, htyped, rfl⟩
    obtain ⟨gross, net, hstored, ⟨hnonneg, hgross⟩, hnet⟩ := htyped.liquidity block t
    change (Action.lift (pool.liquidityAt block t).amounts).Serves _ _
    rw [hstored]
    apply Action.serves_pure
    refine ⟨gross, net, rfl, fun flag => ⟨ht, ?_⟩⟩
    have hsize : gross.natAbs < Nat.pow 2 128 := by omega
    exact TickRecord.writable_of_fits hsize hnet flag t
  case version =>
    apply (Action.serves_note _).then
    rintro ⟨⟩
    change (version snapshot).Serves _ _
    apply (Action.serves_lift fun _ _ => trivial).then
    exact fun block => Action.serves_pure trivial

end StateView

end TickWalk
