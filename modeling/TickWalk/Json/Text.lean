import TickWalk.Text.Hex

/-!
# Text in JSON

A text is written in ASCII: a character outside of it is written as one or two sixteen-bit units in
hexadecimal, and five control characters have short escapes. Reading collects the pieces between the
quotes and then joins the units of a pair.
-/

namespace TickWalk.Json

def unitEscape (n : Nat) : List Char := '\\' :: 'u' :: Text.hexDigits 4 n

/-- Characters with a short escape, and the letter that stands for them. -/
def shortEscapes : List (Char × Char) := [
  ('"', '"'), ('\\', '\\'), ('\n', 'n'), ('\r', 'r'), ('\t', 't'), ('\x0c', 'f'), ('\x08', 'b')]

def writeChar (c : Char) : List Char :=
  match shortEscapes.lookup c with
  | some letter => ['\\', letter]
  | none =>
    if ' ' ≤ c && c ≤ '~' then [c]
    else if c.toNat < 0x10000 then unitEscape c.toNat
    else
      let n := c.toNat - 0x10000
      unitEscape (0xd800 + n / 0x400) ++ unitEscape (0xdc00 + n % 0x400)

def writeText (s : String) : List Char := '"' :: s.toList.flatMap writeChar ++ ['"']

/-- What stands between quotes: a character, or a sixteen-bit unit. -/
inductive Piece
  | char (c : Char)
  | unit (n : Nat)
deriving DecidableEq

def unit? (a b c d : Char) : Option Nat := do
  let a ← Text.hexValue? a
  let b ← Text.hexValue? b
  let c ← Text.hexValue? c
  let d ← Text.hexValue? d
  some (((a * 16 + b) * 16 + c) * 16 + d)

/-- The character that a short escape stands for; a slash may be escaped too. -/
def ofShort? (letter : Char) : Option Char :=
  if letter = '/' then some '/' else (shortEscapes.find? (·.2 == letter)).map (·.1)

/-- The pieces up to the closing quote, and what follows it. -/
def pieces : List Char → Option (List Piece × List Char)
  | [] => none
  | '"' :: rest => some ([], rest)
  | '\\' :: 'u' :: a :: b :: c :: d :: rest => do
    let n ← unit? a b c d
    let (more, after) ← pieces rest
    some (.unit n :: more, after)
  | '\\' :: letter :: rest => do
    let c ← ofShort? letter
    let (more, after) ← pieces rest
    some (.char c :: more, after)
  | c :: rest =>
    if c < ' ' then none
    else do
      let (more, after) ← pieces rest
      some (.char c :: more, after)

/-- A character from a unit of its own; half of a pair is none. -/
def ofUnit? (n : Nat) : Option Char :=
  if 0xd800 ≤ n && n < 0xe000 then none else some (Char.ofNat n)

def join : List Piece → Option (List Char)
  | [] => some []
  | .char c :: rest => (join rest).map (c :: ·)
  | .unit n :: rest =>
    match rest with
    | .unit m :: more =>
      if 0xd800 ≤ n && n < 0xdc00 && 0xdc00 ≤ m && m < 0xe000 then
        (join more).map (Char.ofNat (0x10000 + (n - 0xd800) * 0x400 + (m - 0xdc00)) :: ·)
      else do
        let c ← ofUnit? n
        (join (.unit m :: more)).map (c :: ·)
    | rest => do
      let c ← ofUnit? n
      (join rest).map (c :: ·)

/-- The text whose opening quote has been read, and what follows it. -/
def readText (s : List Char) : Option (String × List Char) := do
  let (ps, rest) ← pieces s
  let cs ← join ps
  some (String.ofList cs, rest)

example : writeText "h\u00e9\x7f" = "\"h\\u00e9\\u007f\"".toList := by decide +kernel
example : readText "\\ud83d\\ude00\\/\"x".toList = some ("😀/", ['x']) := by decide +kernel

end TickWalk.Json
