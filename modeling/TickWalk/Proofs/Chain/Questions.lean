import TickWalk.Proofs.Chain.Reads
import TickWalk.Proofs.Load.Agreement
import TickWalk.Proofs.Load.Batching

/-!
# What a node remembers

Besides its pool a node keeps only how often it has been asked each kind of question. Two nodes that hold
the same pool and have been asked equally often for words and liquidity answer scans and loads alike.
Whatever else has been asked before, such as the number of a block or the active tick, makes no
difference to them.
-/

namespace TickWalk

variable {kinds : List Question} {α β : Type}

/-- The questions of scans and loads. -/
def Question.searching : List Question := [.word, .liquidity]

/-- Two nodes hold the same pool and have been asked equally often for these kinds of answers. -/
structure Node.Alike (kinds : List Question) (a b : Node) : Prop where
  pool : b.pool = a.pool
  asked : ∀ q ∈ kinds, b.asked.count q = a.asked.count q

namespace Node

variable {a b c : Node} {q : Question}

lemma Alike.refl (a : Node) : a.Alike kinds a := ⟨rfl, fun _ _ => rfl⟩

lemma Alike.symm (h : a.Alike kinds b) : b.Alike kinds a :=
  ⟨h.pool.symm, fun q hq => (h.asked q hq).symm⟩

lemma Alike.trans (hab : a.Alike kinds b) (hbc : b.Alike kinds c) : a.Alike kinds c :=
  ⟨hbc.pool.trans hab.pool, fun q hq => (hbc.asked q hq).trans (hab.asked q hq)⟩

lemma alike_of_asked (hq : q ∉ kinds) (a : Node) : a.Alike kinds ⟨a.pool, q :: a.asked⟩ := by
  refine ⟨rfl, ?_⟩
  intro p hp
  rw [List.count_cons_of_ne]
  rintro rfl
  exact hq hp

lemma Alike.asking (h : a.Alike kinds b) (c : Call) : (a.asking c).Alike kinds (b.asking c) := by
  refine ⟨h.pool, ?_⟩
  intro q hq
  have hcount := h.asked q hq
  simp only [Node.asking, List.count_cons, hcount]

lemma Alike.fault? (h : a.Alike kinds b) {c : Call} (hc : c.question ∈ kinds) :
    b.fault? c = a.fault? c := by
  have hcount := (h.asking c).asked _ hc
  unfold Node.fault?
  rw [h.pool, hcount]

lemma run_ask (q : Question) (answer : Pool → Except Failure Value) (node : Node) :
    (ask q answer).run node =
      ⟨match node.pool.faultOf? q ((q :: node.asked).count q) with
        | some f => .error (.raised f.kind f.message)
        | none => answer node.pool, ⟨node.pool, q :: node.asked⟩, []⟩ := by
  unfold ask
  rw [Action.run_bind_of_ok (Action.run_get node), Action.run_bind_of_ok (Action.run_set _ _)]
  cases node.pool.faultOf? q ((q :: node.asked).count q) <;> rfl

end Node

lemma BlockReference.ofValue_int {n : Int} {r : BlockReference} (h : ofValue (.int n) = .ok r) :
    (0 ≤ n ∧ n < (Nat.pow 2 256 : Nat)) ∧ r = .number n.toNat (quantity n.toNat) := by
  cases n with
  | negSucc m => cases h
  | ofNat m =>
    have hsmall : m < Nat.pow 2 256 := by
      by_contra hlarge
      rw [ofValue, if_neg hlarge] at h
      cases h
    rw [ofValue, if_pos hsmall] at h
    exact ⟨⟨Int.natCast_nonneg m, Int.ofNat_lt.mpr hsmall⟩, (Except.ok.inj h).symm⟩

/-! ### Actions that ask other questions -/

namespace Action

variable {x : Action Node α} {f : α → Action Node β}

/-- No run of the action asks the node for such an answer. -/
def Spares (kinds : List Question) (x : Action Node α) : Prop :=
  ∀ node : Node, node.Alike kinds (x.run node).state

lemma spares_compositional (kinds : List Question) :
    Compositional fun (α : Type) (x : Action Node α) => x.Spares kinds := by
  constructor
  case lift => exact fun _ _ node => Node.Alike.refl node
  case log => exact fun _ _ _ node => Node.Alike.refl node
  case bind =>
    intro α β x f hx hf node
    have hfirst := hx node
    cases hrun : x.run node with
    | mk result after before =>
      rw [hrun] at hfirst
      cases result with
      | error e =>
        rw [run_bind_of_error hrun]
        exact hfirst
      | ok a =>
        rw [run_bind_of_ok hrun]
        exact hfirst.trans (hf a ⟨node, congrArg Outcome.result hrun⟩ after)

lemma spares_note (event : Event) : (note event).Spares kinds := fun node => Node.Alike.refl node

lemma spares_ask {q : Question} (hq : q ∉ kinds) (answer : Pool → Except Failure Value) :
    (Node.ask q answer).Spares kinds := by
  intro node
  rw [Node.run_ask]
  exact Node.alike_of_asked hq node

lemma lift_bind {σ : Type} (x : Except Failure α) (f : α → Except Failure β) :
    (lift (x >>= f) : Action σ β) = (lift x >>= fun a => lift (f a)) := by
  cases x <;> rfl

lemma run_attempt (x : Action Node α) (node : Node) :
    x.attempt.run node = ⟨.ok (x.run node).result, (x.run node).state, (x.run node).events⟩ := rfl

lemma Spares.attempt (hx : x.Spares kinds) : x.attempt.Spares kinds := hx

end Action

namespace StateView

variable {v : StateView} {a b : Node} {block : Nat} {snapshot : Value}

lemma spares_blockNumber (h : .blockNumber ∉ kinds) (t : Transport) :
    t.blockNumber.Spares kinds := by
  have hrules := Action.spares_compositional kinds
  have hask := Action.spares_ask h fun p => .ok p.blockNumber
  cases t with
  | direct => exact hrules.bind (Action.spares_note _) fun _ _ => hask
  | endpoint url =>
    apply hrules.bind (Action.spares_note _)
    intro _ _
    apply hrules.bind hask.attempt
    intro answer _
    cases answer with
    | ok number => exact hrules.pure number
    | error e => exact hrules.bind (Action.spares_note _) fun _ _ => hrules.compute _

lemma spares_block (h : .block ∉ kinds) (t : Transport) (reference : Value) :
    (t.block reference).Spares kinds := by
  have hrules := Action.spares_compositional kinds
  cases t with
  | direct => exact hrules.bind (Action.spares_note _) fun _ _ => Action.spares_ask h _
  | endpoint url =>
    apply hrules.bind (hrules.compute _)
    intro r _
    exact hrules.bind (Action.spares_note _) fun _ _ => Action.spares_ask h _

lemma blockNumber_of_endpoint {url : String} {node after : Node} {number : Value}
    {events : List Event}
    (h : ((Transport.endpoint url).blockNumber).run node = ⟨.ok number, after, events⟩) :
    number = node.pool.blockNumber ∧ chainReads events = [⟨some url, "eth_blockNumber", []⟩] := by
  unfold Transport.blockNumber at h
  dsimp only at h
  rw [Action.run_bind_of_ok (Action.run_note _ _), Action.run_bind_of_ok (Action.run_attempt _ _),
    Node.run_ask] at h
  cases hfault : node.pool.faultOf? .blockNumber ((.blockNumber :: node.asked).count .blockNumber) with
  | some fault =>
    rw [hfault] at h
    cases congrArg Outcome.result h
  | none =>
    rw [hfault] at h
    obtain ⟨hnumber, -, rfl⟩ := Outcome.mk.inj h
    exact ⟨(Except.ok.inj hnumber).symm, rfl⟩

lemma block_of_endpoint {url : String} {node after : Node} {reference number : Value}
    {events : List Event}
    (h : ((Transport.endpoint url).block reference).run node = ⟨.ok number, after, events⟩) :
    ∃ r, BlockReference.ofValue reference = .ok r ∧ r.resolve node.pool = .ok number ∧
      chainReads events = [⟨some url, "eth_getBlockByNumber", [.text r.text]⟩] := by
  unfold Transport.block at h
  dsimp only at h
  cases hr : BlockReference.ofValue reference with
  | error e =>
    rw [hr] at h
    cases congrArg Outcome.result h
  | ok r =>
    rw [hr, Action.lift_ok_bind, Action.run_bind_of_ok (Action.run_note _ _), Node.run_ask] at h
    cases hfault : node.pool.faultOf? .block ((.block :: node.asked).count .block) with
    | some fault =>
      rw [hfault] at h
      cases congrArg Outcome.result h
    | none =>
      rw [hfault] at h
      obtain ⟨hnumber, -, rfl⟩ := Outcome.mk.inj h
      exact ⟨r, rfl, hnumber, rfl⟩

/-- The number of the latest block, or of the block that another reference means. -/
def settle (v : StateView) : Value → Action Node Int
  | .text "latest" => v.transport.blockNumber >>= fun number => Action.lift number.toInteger
  | reference => v.transport.block reference >>= fun number => Action.lift number.toInteger

lemma pinBlock_eq (v : StateView) (reference : Value) :
    v.pinBlock reference = ((v.settle reference).attempt >>= fun answer =>
      Action.lift (answer.mapError fun cause => (Failure.unresolvedBlock reference cause).told)) := by
  unfold pinBlock
  refine congrArg₂ Bind.bind (congrArg Action.attempt ?settled) (funext fun answer => ?told)
  case told => cases answer <;> rfl
  case settled =>
    cases reference with
    | text s =>
      by_cases hlatest : s = "latest"
      · subst hlatest
        rfl
      · rw [settle.eq_2 v _ fun h => hlatest (Value.text.inj h)]
        simp only [beq_eq_false_iff_ne.mpr hlatest]
        rfl
    | _ => rfl

lemma failure_of_pinBlock {reference : Value} {node : Node} {e : Failure}
    (h : ((v.pinBlock reference).run node).result = .error e) :
    ∃ cause, e = (Failure.unresolvedBlock reference cause).told := by
  rw [pinBlock_eq] at h
  change ((v.settle reference).run node).result.mapError
    (fun cause => (Failure.unresolvedBlock reference cause).told) = .error e at h
  cases hanswer : ((v.settle reference).run node).result with
  | ok n =>
    rw [hanswer] at h
    cases h
  | error cause =>
    rw [hanswer] at h
    exact ⟨cause, (Except.error.inj h).symm⟩

lemma settle_of_pinBlock {reference : Value} {node after : Node} {n : Int} {events : List Event}
    (h : (v.pinBlock reference).run node = ⟨.ok n, after, events⟩) :
    (v.settle reference).run node = ⟨.ok n, after, events⟩ := by
  rw [pinBlock_eq, Action.run_bind_of_ok (Action.run_attempt _ _)] at h
  cases hrun : (v.settle reference).run node with
  | mk result t before =>
    rw [hrun] at h
    cases result with
    | error e => cases congrArg Outcome.result h
    | ok m =>
      obtain ⟨hn, rfl, rfl⟩ := Outcome.mk.inj h
      rw [Action.run_lift, List.append_nil]
      exact congrArg (fun r => Outcome.mk r _ _) hn

lemma spares_pinBlock (h : .blockNumber ∉ kinds) (h' : .block ∉ kinds) (v : StateView)
    (reference : Value) : (v.pinBlock reference).Spares kinds := by
  have hrules := Action.spares_compositional kinds
  have hsettle : (v.settle reference).Spares kinds := by
    unfold settle
    split
    · exact hrules.bind (spares_blockNumber h _) fun _ _ => hrules.compute _
    · exact hrules.bind (spares_block h' _ _) fun _ _ => hrules.compute _
  rw [pinBlock_eq]
  exact hrules.bind hsettle.attempt fun _ _ => hrules.compute _

lemma spares_call {c : Call} (h : c.question ∉ kinds) (label : String) :
    (v.call label c block).Spares kinds := by
  intro node
  rcases v.call_cases label c block node with ⟨e, -, hrun⟩ | ⟨-, hrun | ⟨_, _, lines, -, hrun⟩⟩
  · rw [hrun]
    exact .refl node
  · rw [hrun]
    exact Node.alike_of_asked h node
  · rw [hrun]
    exact Node.alike_of_asked h node

/-- The active state that an answer tells. -/
def Slot0.ofAnswer (answer : Value) : Except Failure Slot0 := do
  match ← answer.unpack 4 with
  | [price, tick, protocolFee, lpFee] => do
    let price ← price.toInteger
    let tick ← tick.toInteger
    let protocolFee ← protocolFee.toInteger
    let lpFee ← lpFee.toInteger
    .ok ⟨price, tick, protocolFee, lpFee⟩
  | vs => .error (.tooFew 4 vs.length)

lemma slot0_eq (v : StateView) (snapshot : Value) :
    v.slot0 snapshot = (do
      let block ← Action.lift (StateView.block snapshot)
      let answer ← v.call "getSlot0" .slot0 block
      Action.lift (Slot0.ofAnswer answer)) := by
  unfold slot0 Slot0.ofAnswer
  simp only [Action.lift_bind]
  congr 1
  funext block
  congr 1
  funext answer
  congr 1
  funext fields
  rcases fields with _ | ⟨_, _ | ⟨_, _ | ⟨_, _ | ⟨_, _ | ⟨_, _⟩⟩⟩⟩⟩
  case cons.cons.cons.cons.nil =>
    simp only [Action.lift_bind]
    rfl
  all_goals rfl

lemma spares_slot0 (h : .slot0 ∉ kinds) (v : StateView) (snapshot : Value) :
    (v.slot0 snapshot).Spares kinds := by
  have hrules := Action.spares_compositional kinds
  rw [slot0_eq]
  apply hrules.bind (hrules.compute _)
  intro block _
  exact hrules.bind (spares_call h _) fun answer _ => hrules.compute _

/-! ### Nodes that answer alike -/

lemma call_agrees (h : a.Alike kinds b) {c : Call} (hc : c.question ∈ kinds) (label : String)
    (block : Nat) : ((v.call label c block).run a).Agrees (Node.Alike kinds) (fun x y => x = y)
      ((v.call label c block).run b) := by
  cases hadmits : v.transport.admits c with
  | error e =>
    unfold call
    rw [hadmits]
    exact Outcome.Agrees.fail h e
  | ok u =>
    cases hfault : a.fault? c with
    | none =>
      rw [run_call_answered hadmits label block hfault,
        run_call_answered hadmits label block ((h.fault? hc).trans hfault), h.pool]
      exact ⟨.ok rfl, rfl, h.asking c⟩
    | some fault =>
      obtain ⟨lines, -, hrun⟩ := run_call_failed hadmits label block fault
      rw [hrun a hfault, hrun b ((h.fault? hc).trans hfault)]
      exact ⟨.error _, rfl, h.asking c⟩

lemma find_agrees (h : a.Alike kinds b) (hword : .word ∈ kinds) (v : StateView)
    (cursor spacing : Value) (d : Direction) :
    ((v.find snapshot cursor d spacing).run a).Agrees (Node.Alike kinds) (fun x y => x = y)
      ((v.find snapshot cursor d spacing).run b) := by
  rw [find_eq]
  apply (Outcome.Agrees.lift h _).bind
  rintro block _ a b rfl h
  apply (Outcome.Agrees.lift h _).bind
  rintro probe _ a b rfl h
  have hprobe : ((v.word (.int block) (.int probe.word)).run a).Agrees (Node.Alike kinds)
      (fun x y => x = y) ((v.word (.int block) (.int probe.word)).run b) := by
    unfold word
    apply (Outcome.Agrees.lift h _).bind
    rintro block _ a b rfl h
    apply (Outcome.Agrees.lift h _).bind
    rintro label _ a b rfl h
    apply (Outcome.Agrees.lift h _).bind
    rintro n _ a b rfl h
    apply (call_agrees h (c := .word n) hword _ block).bind
    rintro answer _ a b rfl h
    exact Outcome.Agrees.lift h _
  apply hprobe.bind
  rintro word _ a b rfl h
  exact Outcome.Agrees.pure h rfl

lemma fetch_agrees (h : a.Alike kinds b) (hliquidity : .liquidity ∈ kinds) (v : StateView)
    (tick : Value) : ((v.fetch snapshot tick).run a).Agrees (Node.Alike kinds) (fun x y => x = y)
      ((v.fetch snapshot tick).run b) := by
  unfold fetch
  apply (Outcome.Agrees.lift h _).bind
  rintro block _ a b rfl h
  apply (Outcome.Agrees.lift h _).bind
  rintro label _ a b rfl h
  apply (Outcome.Agrees.lift h _).bind
  rintro t _ a b rfl h
  apply (call_agrees h (c := .liquidity t) hliquidity _ block).bind
  rintro answer _ a b rfl h
  apply (Outcome.Agrees.lift h _).bind
  rintro amounts _ a b rfl h
  apply (Outcome.Agrees.lift h _).bind
  rintro gross _ a b rfl h
  apply (Outcome.Agrees.lift h _).bind
  rintro net _ a b rfl h
  exact Outcome.Agrees.pure h rfl

end StateView

lemma Outcome.Agrees.of_eq {σ τ : Type} {R : σ → τ → Prop} {Q : α → α → Prop} {o : Outcome σ α}
    {q : Outcome τ α} (h : o.Agrees R (fun x y => x = y) q) (hQ : ∀ x, o.result = .ok x → Q x x) :
    o.Agrees R Q q := by
  refine ⟨?_, h.searches, h.state⟩
  rw [← h.result.eq]
  cases hresult : o.result with
  | ok x => exact .ok (hQ x hresult)
  | error e => exact .error e

namespace StateView

variable {a b : Node} {domain : KeyDomain} {snapshot : Value}

/-- A view searches nodes alike that have been asked equally often for words and liquidity. -/
lemma searchAlike_self (v : StateView) (d : Direction) (spacing : Int) :
    v.provider.SearchAlike v.provider domain snapshot d spacing (Node.Alike Question.searching) := by
  constructor
  · intro a b cursor h _
    have hfind : ((v.provider.find snapshot (.int cursor) d (.int spacing)).run a).Agrees
        (Node.Alike Question.searching) (fun x y => x = y)
        ((v.provider.find snapshot (.int cursor) d (.int spacing)).run b) := by
      apply (Outcome.Agrees.note h _).bind
      rintro _ _ a b - h
      exact find_agrees h (by decide) v _ _ d
    apply hfind.of_eq
    intro candidate hcandidate
    obtain ⟨flag, t, hpair⟩ := candidate_of_find ⟨a, hcandidate⟩
    exact ⟨flag, t, hpair, hpair⟩
  · intro a b tick h _
    have hfetch : ((v.provider.fetch snapshot (.int tick)).run a).Agrees
        (Node.Alike Question.searching) (fun x y => x = y)
        ((v.provider.fetch snapshot (.int tick)).run b) := by
      apply (Outcome.Agrees.note h _).bind
      rintro _ _ a b - h
      exact fetch_agrees h (by decide) v _
    apply hfetch.of_eq
    intro stored hstored
    obtain ⟨gross, net, hpair⟩ := amounts_of_fetch ⟨a, hstored⟩
    exact ⟨gross, net, hpair, hpair⟩

/-- Scans and loads of a view cannot tell such nodes apart. -/
theorem alike_self (v : StateView) (domain : KeyDomain) (snapshot spacing : Value) :
    v.provider.Alike v.provider domain snapshot spacing (Node.Alike Question.searching) := by
  constructor
  · exact fun d spacing _ => searchAlike_self v d spacing
  · intro a b h
    apply (Outcome.Agrees.note h _).bind
    rintro _ _ a b - h
    apply (Outcome.Agrees.lift h _).bind
    rintro block _ a b rfl h
    exact Outcome.Agrees.pure h rfl

lemma steady (v : StateView) (domain : KeyDomain) (block : Nat) :
    v.provider.Steady domain (.int block) (.int block) (Node.Alike Question.searching) := by
  constructor
  case symm => exact fun _ _ h => h.symm
  case search => exact searchAlike_self v
  case version =>
    intro a b h
    exact ⟨b, (Action.quiet_note rfl b).bind (quiet_version block b), h⟩

end StateView

end TickWalk
