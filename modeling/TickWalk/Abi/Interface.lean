import TickWalk.Hash.Keccak

/-!
# The view contract

The functions of the contract that pool state is read through. The selector of a function is the
start of the hash of its signature.
-/

namespace TickWalk.Abi

structure Parameter where
  name : String
  type : String
  internalType : String

structure Function where
  name : String
  inputs : List Parameter
  outputs : List Parameter

namespace Function

def signature (f : Function) : String :=
  f.name ++ "(" ++ ",".intercalate (f.inputs.map (·.type)) ++ ")"

def selector (f : Function) : List UInt8 := (Hash.keccak256 f.signature.toUTF8.toList).take 4

end Function

def plain (name type : String) : Parameter := ⟨name, type, type⟩

def poolParameter : Parameter := ⟨"poolId", "bytes32", "PoolId"⟩

def getTickBitmap : Function :=
  ⟨"getTickBitmap", [poolParameter, plain "tick" "int16"], [plain "tickBitmap" "uint256"]⟩

def getTickLiquidity : Function :=
  ⟨"getTickLiquidity", [poolParameter, plain "tick" "int24"],
    [plain "liquidityGross" "uint128", plain "liquidityNet" "int128"]⟩

def getSlot0 : Function :=
  ⟨"getSlot0", [poolParameter],
    [plain "sqrtPriceX96" "uint160", plain "tick" "int24", plain "protocolFee" "uint24",
      plain "lpFee" "uint24"]⟩

def stateView : List Function := [getTickBitmap, getTickLiquidity, getSlot0]

end TickWalk.Abi
