import TickWalk.Command.Run
import TickWalk.Proofs.Chain.Network
import TickWalk.Proofs.Failure
import TickWalk.Proofs.Pool.Identifier

/-!
# How a view is named

A view takes an endpoint, a pool and a contract. Endpoint and contract are the ones that the arguments
give, or else the environment, or else the network. The network is looked up only where it is asked for:
for the endpoint first, and for the contract once the pool has an identifier. What is wrong with a name is
always reported.
-/

namespace TickWalk

lemma Failure.isReported_told {e : Failure} (h : e.isReported = true) : e.told.isReported = true := by
  rcases e.told_eq_or with htold | htold
  · rwa [htold]
  · rw [htold]
    rfl

/-- What may be wrong with the names of a pool and a contract. -/
inductive Failure.OfNames : Failure → Prop
  | address (name : String) (given : Value) : OfNames (.badAddress name given)
  | order : OfNames .currencyOrder
  | fee (given : Value) : OfNames (.badFee given)
  | spacing (given : Value) : OfNames (.badSpacing given)
  | unnamed : OfNames .poolNotNamed
  | identifier {e : Failure} (h : PoolId.Refusal e) : OfNames e
  | notHexText (given : String) : OfNames (.notHexText given)
  | malformed (given : Value) (read : String) : OfNames (.malformedAddress given read)
  | untold : OfNames (.tooManyDigits none)

lemma Failure.OfNames.isReported {e : Failure} (h : e.OfNames) : e.isReported = true := by
  cases h with
  | identifier h => cases h <;> rfl
  | _ => rfl

namespace Command

variable {α β : Type} {P Q : Failure → Prop}

/-! ### Failures of one kind -/

def FailsOnly (P : Failure → Prop) (x : Except Failure α) : Prop := ∀ e, x = .error e → P e

abbrev Reported (x : Except Failure α) : Prop := FailsOnly (fun e => e.isReported = true) x

lemma failsOnly_ok (a : α) : FailsOnly P (.ok a) := by
  rintro e ⟨⟩

lemma failsOnly_error {e : Failure} (h : P e) : FailsOnly P (.error e : Except Failure α) := by
  rintro _ ⟨⟩
  exact h

lemma failsOnly_refuse {e : Failure} (h : P e) (huntold : P (.tooManyDigits none)) :
    FailsOnly P (e.refuse : Except Failure α) := by
  rintro _ ⟨rfl⟩
  rcases e.told_eq_or with htold | htold
  · rwa [htold]
  · rwa [htold]

lemma FailsOnly.imp {x : Except Failure α} (hx : FailsOnly P x) (h : ∀ e, P e → Q e) :
    FailsOnly Q x := fun e he => h e (hx e he)

lemma FailsOnly.bind {x : Except Failure α} {f : α → Except Failure β} (hx : FailsOnly P x)
    (hf : ∀ a, x = .ok a → FailsOnly P (f a)) : FailsOnly P (x >>= f) := by
  intro e he
  rcases error_or_of_bind_error he with hfirst | ⟨a, ha, hrest⟩
  · exact hx e hfirst
  · exact hf a ha e hrest

/-! ### Pools and contracts -/

lemma failsOnly_between (low high n : Int) : FailsOnly P (PoolKey.between low (.int n) high) := by
  unfold PoolKey.between
  rw [Value.atMost_int, ok_bind]
  split
  · rw [Value.atMost_int]
    exact failsOnly_ok _
  · exact failsOnly_ok _

lemma ofNames_key (currency0 currency1 hooks : Value) (fee spacing : Int) :
    FailsOnly Failure.OfNames
      (PoolKey.ofValues currency0 currency1 (.int fee) (.int spacing) hooks) := by
  have haddress : ∀ name given, FailsOnly Failure.OfNames (PoolKey.address .free name given) := by
    intro name given
    unfold PoolKey.address
    split
    · exact failsOnly_ok _
    · exact failsOnly_refuse (.address name given) .untold
  have hallowed : FailsOnly Failure.OfNames (PoolKey.feeAllowed (.int fee)) := by
    unfold PoolKey.feeAllowed
    split
    · exact failsOnly_ok _
    · exact failsOnly_between _ _ _
  unfold PoolKey.ofValues PoolKey.ofSpellings
  refine (haddress _ _).bind fun _ _ => (haddress _ _).bind fun _ _ => (haddress _ _).bind fun _ _ => ?_
  split
  · exact failsOnly_error .order
  · refine hallowed.bind fun allowed _ => ?_
    split
    · exact failsOnly_refuse (.fee _) .untold
    · refine (failsOnly_between _ _ _).bind fun inside _ => ?_
      split
      · exact failsOnly_refuse (.spacing _) .untold
      · exact failsOnly_ok _

lemma ofNames_resolve (p : PoolArguments) : FailsOnly Failure.OfNames p.resolve := by
  unfold PoolArguments.resolve
  split
  · exact failsOnly_ok _
  · split
    · refine (ofNames_key _ _ _ _ _).bind fun key hkey => ?_
      obtain ⟨id, hid⟩ := PoolKey.exists_identifier hkey
      rw [hid, ok_bind]
      exact failsOnly_ok _
    · exact failsOnly_error .unnamed

/-- The identifier of the pool that the arguments name. -/
def PoolArguments.identifier (p : PoolArguments) : Except Failure PoolId := do
  PoolId.ofValue (.text (← p.resolve))

lemma ofNames_identifier (p : PoolArguments) : FailsOnly Failure.OfNames p.identifier :=
  (ofNames_resolve p).bind fun _ _ _ he => .identifier (PoolId.refusal_of_ofValue_text he)

lemma ofNames_contract (s : String) : FailsOnly Failure.OfNames (Address.ofContract (.text s)) := by
  have htext : FailsOnly Failure.OfNames (Address.hexTextOf (.text s)) := by
    unfold Address.hexTextOf
    dsimp only
    split
    · exact failsOnly_ok _
    · exact failsOnly_error (.notHexText s)
  refine htext.bind fun digits _ => ?_
  dsimp only
  split
  · exact failsOnly_ok _
  · exact failsOnly_refuse (.malformed _ _) .untold

/-! ### Views -/

/-- What is given, or else that part of the network. -/
def settled (given : Option String) (network : Except Failure Network) (part : Network → String) :
    Except Failure String :=
  match given with
  | some s => .ok s
  | none => do .ok (part (← network))

namespace PoolArguments

variable {env : Environment} {p : PoolArguments} {e : Failure}

/-- The endpoint of the arguments, or that of the environment. -/
def endpoint? (env : Environment) (p : PoolArguments) : Option String :=
  (given? p.rpcUrl).or (Network.given? env.rpcUrl)

def contract? (env : Environment) (p : PoolArguments) : Option String :=
  (given? p.stateView).or (Network.given? env.stateView)

def network (env : Environment) (p : PoolArguments) : Except Failure Network :=
  Network.ofValue env (valueOf p.chain)

/-- The view over a network, which gives the endpoint and the contract where they are missing. -/
def viewOn (env : Environment) (p : PoolArguments) (network : Except Failure Network) :
    Except Failure StateView := do
  let url ← settled (p.endpoint? env) network (·.rpcUrls.headD "")
  let pool ← p.identifier
  let contract ← settled (p.contract? env) network (·.stateView)
  let address ← Address.ofContract (.text contract)
  .ok ⟨.endpoint url, address, pool⟩

lemma truthy_valueOf (setting : Option String) :
    (valueOf setting).truthy = true ∧ (∃ s, given? setting = some s ∧ valueOf setting = .text s) ∨
      (valueOf setting).truthy = false ∧ given? setting = none := by
  cases setting with
  | none => exact .inr ⟨rfl, rfl⟩
  | some s =>
    cases hempty : s.isEmpty with
    | true => exact .inr ⟨congrArg not hempty, by rw [given?, Option.filter_some, hempty]; rfl⟩
    | false => exact .inl ⟨congrArg not hempty, s, by rw [given?, Option.filter_some, hempty]; rfl, rfl⟩

lemma endpoint_eq (env : Environment) (p : PoolArguments) :
    Network.endpoint env (valueOf p.rpcUrl) (valueOf p.chain) =
      settled (p.endpoint? env) (p.network env) (·.rpcUrls.headD "") := by
  unfold Network.endpoint endpoint?
  obtain ⟨htruthy, url, hgiven, hvalue⟩ | ⟨htruthy, hgiven⟩ := truthy_valueOf p.rpcUrl
  · rw [if_pos htruthy, hgiven, hvalue]
    rfl
  · rw [htruthy, hgiven]
    unfold Network.rpcUrl
    cases Network.given? env.rpcUrl <;> rfl

lemma create_eq (env : Environment) (transport : Transport) (pool : String) (p : PoolArguments) :
    StateView.create env transport (.text pool) (valueOf p.stateView) (valueOf p.chain) = (do
      let id ← PoolId.ofValue (.text pool)
      let contract ← settled (p.contract? env) (p.network env) (·.stateView)
      let address ← Address.ofContract (.text contract)
      .ok ⟨transport, address, id⟩) := by
  unfold StateView.create contract?
  congr 1
  funext id
  dsimp only
  obtain ⟨htruthy, contract, hgiven, hvalue⟩ | ⟨htruthy, hgiven⟩ := truthy_valueOf p.stateView
  · rw [if_pos htruthy, hgiven, hvalue]
    rfl
  · rw [htruthy, hgiven]
    unfold Network.stateViewAddress network
    cases Network.given? env.stateView with
    | some contract => rfl
    | none => cases Network.ofValue env (valueOf p.chain) <;> rfl

theorem view_eq (env : Environment) (p : PoolArguments) :
    p.view env = p.viewOn env (p.network env) := by
  unfold view viewOn identifier
  rw [endpoint_eq]
  simp only [create_eq, bind_assoc]

/-- Without a network there is no view: the arguments and the environment lack the endpoint, or the
contract for a pool that has an identifier. -/
inductive AsksChain (env : Environment) (p : PoolArguments) : Prop
  | endpoint (hnone : p.endpoint? env = none)
  | contract {id : PoolId} (hnone : p.contract? env = none) (hid : p.identifier = .ok id)

lemma viewOn_of_asksChain (h : p.AsksChain env) (e : Failure) :
    p.viewOn env (.error e) = .error e := by
  unfold viewOn
  cases hurl : p.endpoint? env with
  | none => rfl
  | some url =>
    cases h with
    | endpoint hnone => cases hurl.symm.trans hnone
    | contract hnone hid =>
      rw [hnone, hid]
      rfl

lemma viewOn_of_not_asksChain (h : ¬ p.AsksChain env) (x y : Except Failure Network) :
    p.viewOn env x = p.viewOn env y := by
  unfold viewOn
  cases hurl : p.endpoint? env with
  | none => exact absurd (.endpoint hurl) h
  | some url =>
    cases hid : p.identifier with
    | error e => rfl
    | ok id =>
      cases hcontract : p.contract? env with
      | none => exact absurd (.contract hcontract hid) h
      | some contract => rfl

lemma failsOnly_settled {given : Option String} {network : Except Failure Network}
    (h : FailsOnly P network) (part : Network → String) : FailsOnly P (settled given network part) := by
  unfold settled
  split
  · exact failsOnly_ok _
  · exact h.bind fun _ _ => failsOnly_ok _

lemma failsOnly_viewOn {network : Except Failure Network} (hP : ∀ e : Failure, e.OfNames → P e)
    (h : FailsOnly P network) (env : Environment) (p : PoolArguments) :
    FailsOnly P (p.viewOn env network) := by
  unfold viewOn
  refine (failsOnly_settled h _).bind fun url _ => ?_
  refine ((ofNames_identifier p).imp hP).bind fun id _ => ?_
  refine (failsOnly_settled h _).bind fun contract _ => ?_
  exact ((ofNames_contract contract).imp hP).bind fun address _ => failsOnly_ok _

end PoolArguments

/-- Whatever is wrong with the names of an endpoint, a chain, a pool or a contract is reported. -/
theorem reported_view (env : Environment) (p : PoolArguments) : Reported (p.view env) := by
  have hname : ∀ name, Reported (Network.ofName name) := by
    intro name
    unfold Network.ofName
    dsimp only
    split
    · exact failsOnly_ok _
    · exact failsOnly_error rfl
  rw [PoolArguments.view_eq]
  apply PoolArguments.failsOnly_viewOn fun e => Failure.OfNames.isReported
  unfold PoolArguments.network
  cases p.chain with
  | none => exact hname _
  | some name => exact hname name

end Command

end TickWalk
