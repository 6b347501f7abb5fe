import TickWalk.Proofs.Chain.View
import TickWalk.Proofs.Compositional
import TickWalk.Proofs.Trace

/-!
# Chain reads that fail

A node fails some of the calls that a view makes. A run over it makes the calls of the run over the same
node without faults, one after the other, up to the first one that is failed. That one ends the run
with an error that names it; a run that comes to none ends as if there were no faults. The number of
the block stands in that error, so that it has to be one that can be written.
-/

namespace TickWalk

/-- The chain read that an event notes. -/
def Event.chainRead? : Event → Option ChainRead
  | .chain r => some r
  | _ => none

/-- The chain reads in a trace, in their order. -/
def chainReads (events : List Event) : List ChainRead := events.filterMap Event.chainRead?

lemma chainReads_append (before after : List Event) :
    chainReads (before ++ after) = chainReads before ++ chainReads after := List.filterMap_append

/-- How messages name a call. -/
def Call.shown : Call → String
  | slot0 => "getSlot0"
  | word number => s!"getTickBitmap({number})"
  | liquidity tick => s!"getTickLiquidity({tick})"

namespace Node

def failing (node : Node) (faults : List (String × Fault)) : Node :=
  ⟨{ node.pool with faults := faults }, node.asked⟩

def asking (node : Node) (c : Call) : Node := ⟨node.pool, c.question :: node.asked⟩

def afterCalls (node : Node) (calls : List Call) : Node := calls.foldl asking node

/-- The fault with which the node fails a call that comes next. -/
def fault? (node : Node) (c : Call) : Option Fault :=
  node.pool.faultOf? c.question ((node.asking c).asked.count c.question)

/-- The node fails none of these calls. -/
def Answers : Node → List Call → Prop
  | _, [] => True
  | node, c :: rest => node.fault? c = none ∧ (node.asking c).Answers rest

variable {node : Node} {calls more : List Call} {faults : List (String × Fault)}

lemma afterCalls_append (node : Node) (calls more : List Call) :
    node.afterCalls (calls ++ more) = (node.afterCalls calls).afterCalls more := List.foldl_append

lemma afterCalls_failing (node : Node) (faults : List (String × Fault)) (calls : List Call) :
    (node.failing faults).afterCalls calls = (node.afterCalls calls).failing faults := by
  induction calls generalizing node with
  | nil => rfl
  | cons c rest ih => exact ih (node.asking c)

lemma answers_append :
    node.Answers (calls ++ more) ↔ node.Answers calls ∧ (node.afterCalls calls).Answers more := by
  induction calls generalizing node with
  | nil => exact (and_iff_right trivial).symm
  | cons c rest ih => exact (and_congr_right fun _ => ih).trans and_assoc.symm

/-- What the node makes of a call: its answer, unless it has a fault for it. -/
def reply (node : Node) (block : Nat) (c : Call) : Except Failure Value :=
  match node.fault? c with
  | some fault => .error (.raised fault.kind fault.message)
  | none => .ok (c.answer block node.pool)

end Node

/-- How a call of a view shows in the trace. -/
def StateView.readOf (v : StateView) (block : Nat) (c : Call) : ChainRead :=
  v.transport.callRead v.contract v.pool c block

namespace Action

/-- Over a node without faults the action makes these calls at a block. With faults it does the same, as
far as the calls are answered: the first one that is failed is the last one made, and the run ends
with an error that names the call and the block and has the fault as its cause, if that can be told. -/
structure EndsAtFault {α : Type} (x : Action Node α) (v : StateView) (block : Nat) (node : Node)
    (calls : List Call) : Prop where
  reads : chainReads (x.run (node.failing [])).events = calls.map (v.readOf block)
  state : (x.run (node.failing [])).state = (node.afterCalls calls).failing []
  answered : ∀ faults, (node.failing faults).Answers calls → x.run (node.failing faults) =
    ⟨(x.run (node.failing [])).result, (node.afterCalls calls).failing faults,
      (x.run (node.failing [])).events⟩
  failed : ∀ faults before c after fault, calls = before ++ c :: after →
    (node.failing faults).Answers before →
    ((node.failing faults).afterCalls before).fault? c = some fault →
      chainReads (x.run (node.failing faults)).events = (before ++ [c]).map (v.readOf block) ∧
      (x.run (node.failing faults)).result =
        .error (Failure.readFailed c.shown block (.raised fault.kind fault.message)).told

variable {α β : Type} {v : StateView} {block : Nat} {node : Node} {calls more : List Call}
  {x : Action Node α} {f : α → Action Node β} {a : α} {e : Failure} {t : Node}
  {events : List Event}

lemma run_bind_of_result_error {node : Node} (h : (x.run node).result = .error e)
    (f : α → Action Node β) :
    ((x >>= f).run node).result = .error e ∧ ((x >>= f).run node).events = (x.run node).events := by
  obtain ⟨t, events, hrun⟩ := exists_run h
  rw [run_bind_of_error hrun, hrun]
  exact ⟨rfl, rfl⟩

lemma EndsAtFault.bind_error (hx : x.EndsAtFault v block node calls)
    (hfree : x.run (node.failing []) = ⟨.error e, t, events⟩) (f : α → Action Node β) :
    (x >>= f).EndsAtFault v block node calls := by
  obtain ⟨hreads, hstate, hanswered, hfailed⟩ := hx
  rw [hfree] at hreads hstate hanswered
  constructor
  case reads => rwa [run_bind_of_error hfree]
  case state => rwa [run_bind_of_error hfree]
  case answered =>
    intro faults hanswers
    rw [run_bind_of_error (hanswered faults hanswers), run_bind_of_error hfree]
  case failed =>
    intro faults before c after fault hsplit hanswers hfault
    obtain ⟨hmade, hresult⟩ := hfailed faults before c after fault hsplit hanswers hfault
    obtain ⟨hresult', hevents⟩ := run_bind_of_result_error hresult f
    rw [hevents]
    exact ⟨hmade, hresult'⟩

lemma EndsAtFault.bind (hx : x.EndsAtFault v block node calls)
    (hfree : x.run (node.failing []) = ⟨.ok a, t, events⟩)
    (hf : (f a).EndsAtFault v block (node.afterCalls calls) more) :
    (x >>= f).EndsAtFault v block node (calls ++ more) := by
  obtain ⟨hreads, hstate, hanswered, hfailed⟩ := hx
  rw [hfree] at hreads hstate hanswered
  obtain rfl : t = (node.afterCalls calls).failing [] := hstate
  -- A fault of the second part comes after all calls of the first one.
  have hrest : ∀ faults, (node.failing faults).Answers calls → ∀ before c after fault,
      more = before ++ c :: after → ((node.failing faults).afterCalls calls).Answers before →
      (((node.failing faults).afterCalls calls).afterCalls before).fault? c = some fault →
      chainReads ((x >>= f).run (node.failing faults)).events =
          (calls ++ before ++ [c]).map (v.readOf block) ∧
        ((x >>= f).run (node.failing faults)).result =
          .error (Failure.readFailed c.shown block (.raised fault.kind fault.message)).told := by
    intro faults hanswers before c after fault hsplit hbefore hfault
    rw [Node.afterCalls_failing] at hbefore hfault
    obtain ⟨hmade, hresult⟩ := hf.failed faults before c after fault hsplit hbefore hfault
    rw [run_bind_of_ok (hanswered faults hanswers), chainReads_append, hmade, hreads,
      ← List.map_append, List.append_assoc]
    exact ⟨rfl, hresult⟩
  constructor
  case reads => rw [run_bind_of_ok hfree, chainReads_append, hreads, hf.reads, List.map_append]
  case state => rw [run_bind_of_ok hfree, hf.state, Node.afterCalls_append]
  case answered =>
    intro faults hanswers
    obtain ⟨hfirst, hsecond⟩ := Node.answers_append.mp hanswers
    rw [Node.afterCalls_failing] at hsecond
    rw [run_bind_of_ok (hanswered faults hfirst), run_bind_of_ok hfree,
      hf.answered faults hsecond, Node.afterCalls_append]
  case failed =>
    intro faults before c after fault hsplit hanswers hfault
    rcases List.append_eq_append_iff.mp hsplit with ⟨between, rfl, hmore⟩ | ⟨between, hcalls, hmore⟩
    · obtain ⟨hfirst, hsecond⟩ := Node.answers_append.mp hanswers
      rw [Node.afterCalls_append] at hfault
      exact hrest faults hfirst between c after fault hmore hsecond hfault
    · cases between with
      | nil =>
        rw [List.append_nil] at hcalls
        subst hcalls
        have hfirst := hrest faults hanswers [] c after fault hmore.symm trivial hfault
        rwa [List.append_nil] at hfirst
      | cons d rest =>
        obtain ⟨rfl, -⟩ := List.cons.inj hmore
        obtain ⟨hmade, hresult⟩ := hfailed faults before c rest fault hcalls hanswers hfault
        obtain ⟨hresult', hevents⟩ := run_bind_of_result_error hresult f
        rw [hevents]
        exact ⟨hmade, hresult'⟩

end Action

variable {v : StateView} {block : Nat} {node : Node} {c : Call}

namespace StateView

lemma run_ask (v : StateView) (block : Nat) (node : Node) (c : Call) :
    (v.transport.call v.contract v.pool c block).attempt.run node =
      ⟨.ok (node.reply block c), node.asking c, [.chain (v.readOf block c)]⟩ := by
  have hask : (Node.ask c.question fun p => .ok (c.answer block p)).run node =
      ⟨node.reply block c, node.asking c, []⟩ := by
    unfold Node.ask Node.reply Node.fault? Node.asking
    rw [Action.run_bind_of_ok (Action.run_get node), Action.run_bind_of_ok (Action.run_set _ _)]
    cases node.pool.faultOf? c.question ((c.question :: node.asked).count c.question) <;> rfl
  have hcall : (v.transport.call v.contract v.pool c block).run node =
      ⟨node.reply block c, node.asking c, [.chain (v.readOf block c)]⟩ := by
    unfold Transport.call
    rw [Action.run_bind_of_ok (Action.run_note _ node), hask]
    rfl
  have hattempt : (v.transport.call v.contract v.pool c block).attempt.run node =
      ⟨.ok ((v.transport.call v.contract v.pool c block).run node).result,
        ((v.transport.call v.contract v.pool c block).run node).state,
        ((v.transport.call v.contract v.pool c block).run node).events⟩ := rfl
  rw [hattempt, hcall]

lemma run_call_answered (hadmits : v.transport.admits c = .ok ()) (label : String) (block : Nat)
    (hfault : node.fault? c = none) : (v.call label c block).run node =
      ⟨.ok (c.answer block node.pool), node.asking c, [.chain (v.readOf block c)]⟩ := by
  have hreply : node.reply block c = .ok (c.answer block node.pool) := by
    rw [Node.reply, hfault]
  unfold call
  rw [hadmits, Action.lift_ok_bind, Action.run_bind_of_ok (run_ask v block node c), hreply]
  rfl

lemma run_call_failed (hadmits : v.transport.admits c = .ok ()) (label : String) (block : Nat)
    (fault : Fault) :
    let failure := Failure.readFailed label block (.raised fault.kind fault.message)
    ∃ lines, chainReads lines = [] ∧ ∀ node : Node, node.fault? c = some fault →
      (v.call label c block).run node =
        ⟨.error failure.told, node.asking c, .chain (v.readOf block c) :: lines⟩ := by
  intro failure
  have hreply : ∀ node : Node, node.fault? c = some fault →
      node.reply block c = .error (.raised fault.kind fault.message) := by
    intro node hfault
    rw [Node.reply, hfault]
  rcases Text.composed_cases failure.shows with ⟨hshort, htold⟩ | ⟨⟨w, hw, hlong⟩, huntold⟩
  · refine ⟨[.line ⟨.error, source, failure.message⟩], rfl, fun node hfault => ?_⟩
    unfold call
    rw [hadmits, Action.lift_ok_bind, Action.run_bind_of_ok (run_ask v block node c), hreply node hfault]
    dsimp only
    rw [htold, Action.lift_ok_bind, Failure.told_of_short hshort]
    rfl
  · refine ⟨[], rfl, fun node hfault => ?_⟩
    unfold call
    rw [hadmits, Action.lift_ok_bind, Action.run_bind_of_ok (run_ask v block node c), hreply node hfault]
    dsimp only
    rw [huntold, Action.lift_error_bind, Failure.told_of_long hw hlong]
    rfl

lemma candidate_of_find {snapshot cursor spacing candidate : Value} {d : Direction}
    (h : (v.provider.find snapshot cursor d spacing).MayAnswer candidate) :
    ∃ (flag : Value) (t : Int), candidate.pair = .ok (flag, .int t) := by
  obtain ⟨_, -, h⟩ := Action.exists_mayAnswer_of_bind h
  change (v.find snapshot cursor d spacing).MayAnswer candidate at h
  rw [find_eq] at h
  obtain ⟨_, -, h⟩ := Action.exists_mayAnswer_of_bind h
  obtain ⟨probe, -, h⟩ := Action.exists_mayAnswer_of_bind h
  obtain ⟨word, -, h⟩ := Action.exists_mayAnswer_of_bind h
  obtain rfl := Except.ok.inj (Action.eq_ok_of_mayAnswer h)
  exact ⟨.bool (probe.answer word).1, (probe.answer word).2, rfl⟩

lemma amounts_of_fetch {snapshot tick stored : Value}
    (h : (v.provider.fetch snapshot tick).MayAnswer stored) :
    ∃ gross net : Int, stored.pair = .ok (.int gross, .int net) := by
  obtain ⟨_, -, h⟩ := Action.exists_mayAnswer_of_bind h
  obtain ⟨_, -, h⟩ := Action.exists_mayAnswer_of_bind h
  obtain ⟨_, -, h⟩ := Action.exists_mayAnswer_of_bind h
  obtain ⟨_, -, h⟩ := Action.exists_mayAnswer_of_bind h
  obtain ⟨_, -, h⟩ := Action.exists_mayAnswer_of_bind h
  obtain ⟨_, -, h⟩ := Action.exists_mayAnswer_of_bind h
  obtain ⟨gross, -, h⟩ := Action.exists_mayAnswer_of_bind h
  obtain ⟨net, -, h⟩ := Action.exists_mayAnswer_of_bind h
  obtain rfl := Except.ok.inj (Action.eq_ok_of_mayAnswer h)
  exact ⟨gross, net, rfl⟩

end StateView

end TickWalk
