import TickWalk.Domain
import TickWalk.Value.Display
import TickWalk.Value.Short

/-!
# Failures

Every way in which an operation can end without an answer, as a cause. The wording is in
`Failure.message` alone. A message that shows an integer too long to be written cannot be composed: then
that is what an operation fails with, and `Failure.told` says so.
-/

namespace TickWalk

/-- What is wrong with a scan request. -/
inductive RequestFault
  | direction (given : Value)
  | maxSteps (given : Value)
  | spacing (given : Value)
  | start (given : Value)
  | startOutside (tick : Int) (domain : KeyDomain)

/-- Why an operation ended without an answer. -/
inductive Failure
  -- values that are not what an operation needs
  | wrongKind
  | notIntegral (given : Value)
  | badInteger (given : Value)
  | tooManyDigits (count : Option Nat)
  | notANumber
  | infinity
  | tooFew (expected got : Nat)
  | tooMany (expected : Nat)
  | missingField (name : String)
  | indexOutOfRange
  | divisionByZero
  -- requests, scans and loads
  | request (fault : RequestFault)
  | emptyDomain (domain : KeyDomain)
  | negativeCount (given : Value)
  | batchNotPositive (given : Value)
  | versionChanged (expected observed : Value)
  -- the snapshot store
  | spacingNotPositive (given : Value)
  | tickOutside (tick : Value) (domain : KeyDomain)
  | negativeGross (tick : Value)
  | misaligned (tick : Int) (spacing : Value)
  | duplicateSnapshot (handle : Value)
  | unknownSnapshot (handle : Value)
  | spacingMismatch (handle indexed given : Value)
  -- documents
  | validToOutside (validTo : Int) (slots : Nat)
  | unknownDirection
  -- pools
  | badAddress (name : String) (given : Value)
  | currencyOrder
  | badFee (fee : Value)
  | badSpacing (spacing : Value)
  | poolIdLength (bytes : Nat)
  | notHex
  | notAscii (first : Char) (start stop : Nat)
  | notHexText (given : String)
  | malformedAddress (given : Value) (read : String)
  | notEncodable
  | poolNotNamed
  | priceTooHigh
  -- networks and chain reads
  | unsupportedChainId (given : Value)
  | unsupportedChain (name : String) (supported : List String)
  | noLowercase
  | unpinned (snapshot : Value)
  | argumentOutOfRange
  | readFailed (call : String) (block : Int) (cause : Failure)
  | unresolvedBlock (block : Value) (cause : Failure)
  | unrecognizedBlock (block : Value)
  | unrecognizedReference (block : Value)
  | blockNotFound (block : String)
  | noBlock (tag : String)
  -- log files
  | directoryMissing
  | isDirectory
  | unknownLevel
  -- raised from outside
  | exhausted (read : String)
  | raised (kind message : String)

namespace RequestFault

def message : RequestFault → String
  | direction given => s!"Unknown direction: {given.inspect}"
  | maxSteps given => s!"max_steps must be a non-negative integer, got {given.inspect}"
  | spacing given => s!"spacing must be a positive integer, got {given.inspect}"
  | start given => s!"start_tick must be an integer, got {given.inspect}"
  | startOutside tick domain => s!"start_tick {tick} outside {domain.bounds}"

/-- The values that the message shows. -/
def shows : RequestFault → List Value
  | direction given => [given]
  | maxSteps given => [given]
  | spacing given => [given]
  | start given => [given]
  | startOutside tick domain => [.int tick, .int domain.minKey, .int domain.maxKey]

end RequestFault

namespace Failure

/-- A quoted value inside a longer message is cut after two hundred characters. -/
def cut (s : String) : String := String.ofList (s.toList.take 200)

/-- The advice that goes with a limit on digits. -/
def digitAdvice : String := "use sys.set_int_max_str_digits() to increase the limit"

/-- What is wrong with a character that is not ASCII. -/
def asciiRange : String := "ordinal not in range(128)"

def message : Failure → String
  | wrongKind => ""
  | notIntegral given =>
    "int() argument must be a string, a bytes-like object or a real number, not '"
      ++ given.kindName ++ "'"
  | badInteger given => s!"invalid literal for int() with base 10: {cut given.inspect}"
  | tooManyDigits (some count) =>
    s!"Exceeds the limit (4300 digits) for integer string conversion: value has {count} digits; {digitAdvice}"
  | tooManyDigits none =>
    s!"Exceeds the limit (4300 digits) for integer string conversion; {digitAdvice}"
  | notANumber => "cannot convert float NaN to integer"
  | infinity => "cannot convert float infinity to integer"
  | tooFew expected got => s!"not enough values to unpack (expected {expected}, got {got})"
  | tooMany expected => s!"too many values to unpack (expected {expected})"
  | missingField name => Text.quoted name
  | indexOutOfRange => "tuple index out of range"
  | divisionByZero => "integer division or modulo by zero"
  | request fault => fault.message
  | emptyDomain domain => s!"Empty key domain: {domain.shown}"
  | negativeCount given => s!"count must be non-negative, got {given.display}"
  | batchNotPositive given => s!"ticks_per_batch must be positive, got {given.display}"
  | versionChanged expected observed =>
    s!"Snapshot version changed mid-load: expected {expected.display}, got {observed.display}"
  | spacingNotPositive given => s!"spacing must be positive, got {given.display}"
  | tickOutside tick domain => s!"Tick {tick.display} outside {domain.bounds}"
  | negativeGross tick => s!"Negative liquidityGross at tick {tick.display}"
  | misaligned tick spacing => s!"Tick {tick} is not a multiple of spacing {spacing.display}"
  | duplicateSnapshot handle => s!"Snapshot {handle.inspect} already committed"
  | unknownSnapshot handle => s!"Unknown snapshot: {handle.inspect}"
  | spacingMismatch handle indexed given =>
    s!"Snapshot {handle.inspect} is indexed with spacing {indexed.display}, got {given.display}"
  | validToOutside validTo slots => s!"validTo {validTo} outside [0, {slots}]"
  | unknownDirection => "not a valid Direction"
  | badAddress name given => s!"Invalid {name} address: {given.inspect}"
  | currencyOrder => "currency0 must sort numerically below currency1"
  | badFee fee => s!"Invalid fee: {fee.display}"
  | badSpacing spacing => s!"Invalid tick spacing: {spacing.display}"
  | poolIdLength bytes => s!"PoolId must be 32 bytes, got {bytes}"
  | notHex => "Non-hexadecimal digit found"
  | notAscii first start stop =>
    if stop = start + 1 then
      s!"'ascii' codec can't encode character {Text.escaped first} in position {start}: {asciiRange}"
    else
      s!"'ascii' codec can't encode characters in position {start}-{stop - 1}: {asciiRange}"
  | notHexText given => s!"when sending a str, it must be a hex string. Got: {Text.quoted given}"
  | malformedAddress given read =>
    s!"Unknown format {given.inspect}, attempted to normalize to {Text.quoted read}"
  | notEncodable => "value cannot be encoded"
  | priceTooHigh => "price too high"
  | poolNotNamed => "Pass --pool-id, or --currency0/--currency1/--fee/--tick-spacing"
  | unsupportedChainId given => s!"Unsupported chain ID: {given.display}"
  | unsupportedChain name supported =>
    s!"Unsupported chain: {name}. Supported: " ++ (Value.list (supported.map .text)).inspect
  | noLowercase => "no lower case"
  | unpinned snapshot => s!"Snapshot must be a pinned block number, got {snapshot.inspect}"
  | argumentOutOfRange => "argument out of range"
  | readFailed call block cause => s!"StateView {call} failed at block {block}: {cause.message}"
  | unresolvedBlock block cause => s!"Could not resolve block {block.inspect}: {cause.message}"
  | unrecognizedBlock block =>
    s!"Value did not match any of the recognized block identifiers: {block.display}"
  | unrecognizedReference block => s!"unrecognized block reference: {block.inspect}"
  | blockNotFound block => s!"Block with id: {Text.quoted block} not found."
  | noBlock tag => Text.quoted tag
  | directoryMissing => "No such file or directory"
  | isDirectory => "Is a directory"
  | unknownLevel => "Unknown level"
  | exhausted read => s!"script: no more {read} answers"
  | raised kind message => if kind == "KeyError" then Text.quoted message else message

/-- The values that the message shows. -/
def shows : Failure → List Value
  | request fault => fault.shows
  | emptyDomain domain => [.int domain.minKey, .int domain.maxKey]
  | negativeCount given => [given]
  | batchNotPositive given => [given]
  | versionChanged expected observed => [expected, observed]
  | spacingNotPositive given => [given]
  | tickOutside tick domain => [tick, .int domain.minKey, .int domain.maxKey]
  | negativeGross tick => [tick]
  | misaligned tick spacing => [.int tick, spacing]
  | duplicateSnapshot handle => [handle]
  | unknownSnapshot handle => [handle]
  | spacingMismatch handle indexed given => [handle, indexed, given]
  | validToOutside validTo slots => [.int validTo, .int slots]
  | badAddress _ given => [given]
  | badFee fee => [fee]
  | badSpacing spacing => [spacing]
  | malformedAddress given _ => [given]
  | unsupportedChainId given => [given]
  | unpinned snapshot => [snapshot]
  | readFailed _ block cause => .int block :: cause.shows
  | unresolvedBlock block cause => block :: cause.shows
  | unrecognizedBlock block => [block]
  | unrecognizedReference block => [block]
  | _ => []

end Failure

/-- A text that shows some values, which have to be short enough to be written. -/
def Text.composed (shown : List Value) (text : String) : Except Failure String :=
  if shown.all Value.isShort then .ok text else .error (.tooManyDigits none)

namespace Failure

/-- What an operation ends with that fails so: the failure, or that of composing its message. -/
def told (e : Failure) : Failure :=
  if e.shows.all Value.isShort then e else .tooManyDigits none

def refuse {α : Type} (e : Failure) : Except Failure α := .error e.told

@[simp] theorem refuse_ne_ok {α : Type} (e : Failure) (a : α) : e.refuse ≠ .ok a := by
  intro h
  cases h

/-- More than an index can count. -/
def notIndex : Failure := .raised "OverflowError" "cannot fit 'int' into an index-sized integer"

/-- More than fits into any memory. -/
def noMemory : Failure := .raised "MemoryError" ""

end Failure

/-- The number of copies of something that a number asks for, none when it is negative. It has to be one
that an index can count, and there may be no more than `most`. -/
def copies (most : Nat) (n : Int) : Except Failure Nat :=
  if (Nat.pow 2 63 : Nat) ≤ n || n < -(Nat.pow 2 63 : Nat) then .error .notIndex
  else if (most : Int) < n then .error .noMemory
  else .ok n.toNat

end TickWalk
