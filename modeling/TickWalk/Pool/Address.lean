import TickWalk.Abi.Word
import TickWalk.Failure
import TickWalk.Hash.Keccak
import TickWalk.Text.Hex
import TickWalk.Value.Number

/-!
# Addresses

An address is a number of twenty bytes. It is given as forty hexadecimal digits, with or without the
mark, or as twenty bytes. It is shown with mixed case: a letter is a capital where the hash of the
lower-case digits has a high digit. Digits that are given in mixed case may have to be shown so
themselves: that is a `Casing`.
-/

namespace TickWalk

structure Address where
  number : Nat
  small : number < Nat.pow 2 160
deriving DecidableEq

namespace Address

def ofNat? (n : Nat) : Option Address := if h : n < Nat.pow 2 160 then some ⟨n, h⟩ else none

/-- The address that no contract has. -/
def zero : Address := ⟨0, by decide⟩

def numberOfHex? (ds : List Char) : Option Nat :=
  ds.foldlM (fun n c => (Text.hexValue? c).map (n * 16 + ·)) 0

def ofText? (s : String) : Option Address :=
  let ds := Text.afterMark s.toList
  if ds.length = 40 then (numberOfHex? ds).bind ofNat? else none

def ofBytes? (bytes : List UInt8) : Option Address :=
  if bytes.length = 20 then ofNat? (Abi.ofBigEndian bytes) else none

/-- The hexadecimal text of a value, behind the mark and in lower case: text that is hexadecimal
already, bytes, and whole numbers have one. -/
def hexTextOf (given : Value) : Except Failure (List Char) :=
  match given with
  | .text s =>
    let ds := Text.afterMark s.toList
    if ds.all fun c => (Text.hexValue? c).isSome then .ok ('0' :: 'x' :: ds.map Char.toLower)
    else .error (.notHexText s)
  | .bytes b => .ok ('0' :: 'x' :: Text.hexOfBytes b)
  | .buffer b => .ok ('0' :: 'x' :: Text.hexOfBytes b)
  | v =>
    match v.whole? with
    | some i =>
      let ds := '0' :: 'x' :: Nat.toDigits 16 i.natAbs
      .ok (if i < 0 then '-' :: ds else ds)
    | none => .error .wrongKind

/-- The address that a contract is said to have, with what is wrong if it is none. -/
def ofContract (given : Value) : Except Failure Address := do
  let s := String.ofList (← hexTextOf given)
  match ofText? s with
  | some a => .ok a
  | none => Failure.refuse (.malformedAddress given s)

def digits (a : Address) : List Char := Text.hexDigits 40 a.number

/-- A digit with the case that a digit of the hash asks for. -/
def raised (digit hash : Char) : Char := if '8' ≤ hash then digit.toUpper else digit

/-- The address in mixed case. -/
def checksum (a : Address) : String :=
  let hash := Text.hexOfBytes (Hash.keccak256 (a.digits.map fun c => UInt8.ofNat c.toNat))
  String.ofList ('0' :: 'x' :: List.zipWith raised a.digits hash)

end Address

/-- Whether letters may be of any case, or letters of both cases have to be those of the checksum. -/
inductive Casing
  | free
  | checked
deriving DecidableEq

/-- Whether there are letters of both cases. -/
def Casing.mixed (ds : List Char) : Bool := ds.any Char.isLower && ds.any Char.isUpper

/-- Whether a text may stand for the address that its digits spell. -/
def Casing.admits (casing : Casing) (s : String) (a : Address) : Bool :=
  match casing with
  | free => true
  | checked => !mixed (Text.afterMark s.toList) || s == a.checksum

def Address.ofValue? (casing : Casing) : Value → Option Address
  | .text s => (ofText? s).filter fun a => casing.admits s a
  | .bytes b => ofBytes? b
  | .buffer b => ofBytes? b
  | _ => none

end TickWalk
