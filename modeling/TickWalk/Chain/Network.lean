import TickWalk.Failure
import TickWalk.Text.Lowercase

/-!
# Networks

The chains that are known, by name and by number. A chain that is not named is the one of the
environment, and without one the default. The environment may also give the endpoint and the address
of the view contract; an empty entry counts as none there.
-/

namespace TickWalk

structure Network where
  key : String
  chainId : Int
  name : String
  currency : String
  blockTime : Int
  rpcUrls : List String
  poolManager : String
  stateView : String
  explorerName : String
  explorerUrl : String

structure Environment where
  chain : Option String
  rpcUrl : Option String
  stateView : Option String

namespace Network

def ethereum : Network where
  key := "ethereum"
  chainId := 1
  name := "Ethereum Mainnet"
  currency := "ETH"
  blockTime := 12
  rpcUrls := ["https://ethereum-rpc.publicnode.com", "https://rpc.ankr.com/eth"]
  poolManager := "0x000000000004444c5dc75cB358380D2e3dE08A90"
  stateView := "0x7fFE42C4a5DEeA5b0feC41C94C136Cf115597227"
  explorerName := "Etherscan"
  explorerUrl := "https://etherscan.io"

def base : Network where
  key := "base"
  chainId := 8453
  name := "Base"
  currency := "ETH"
  blockTime := 2
  rpcUrls := ["https://mainnet.base.org", "https://base.publicnode.com"]
  poolManager := "0x498581fF718922c3f8e6A244956aF099B2652b2b"
  stateView := "0xA3c0c9b65baD0b08107Aa264b0f3dB444b867A71"
  explorerName := "Basescan"
  explorerUrl := "https://basescan.org"

def known : List Network := [ethereum, base]

def default : Network := ethereum

/-- How long a request to an endpoint may take, in seconds. -/
def timeout : Int := 30

def ofId (given : Value) (id : Int) : Except Failure Network :=
  match known.find? (·.chainId == id) with
  | some n => .ok n
  | none => Failure.refuse (.unsupportedChainId given)

def ofName (name : String) : Except Failure Network :=
  let lower := Text.lowercase name
  match known.find? (·.key == lower) with
  | some n => .ok n
  | none => .error (.unsupportedChain lower (known.map (·.key)))

/-- The network that a caller means; nothing means the one of the environment. -/
def ofValue (env : Environment) (chain : Value) : Except Failure Network :=
  match chain with
  | .null => ofName (env.chain.getD default.key)
  | .text name => ofName name
  | .bytes b =>
    let lower := b.map fun x => if 0x41 ≤ x && x ≤ 0x5a then x + 0x20 else x
    .error (.unsupportedChain (Value.bytes lower).display (known.map (·.key)))
  | .buffer _ => .error .wrongKind
  | v =>
    match v with
    | .int i => ofId v i
    | .bool b => ofId v b.toInt
    | _ => .error .noLowercase

def given? (setting : Option String) : Option String := setting.filter (!·.isEmpty)

/-- The endpoint for a chain: the one of the environment, or the first of the network. -/
def rpcUrl (env : Environment) (chain : Value) : Except Failure String :=
  match given? env.rpcUrl with
  | some url => .ok url
  | none => do .ok ((← ofValue env chain).rpcUrls.headD "")

/-- The address of the view contract: the one of the environment, or that of the network. -/
def stateViewAddress (env : Environment) (chain : Value) : Except Failure String :=
  match given? env.stateView with
  | some address => .ok address
  | none => do .ok (← ofValue env chain).stateView

/-- The endpoint to use: the one that a caller gives, unless it is empty. -/
def endpoint (env : Environment) (given chain : Value) : Except Failure String :=
  if given.truthy then .ok given.display else rpcUrl env chain

end Network

end TickWalk
