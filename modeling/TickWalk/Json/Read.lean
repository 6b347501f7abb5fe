import TickWalk.Decimal.Reading
import TickWalk.Json.Text
import TickWalk.Text.Integer
import TickWalk.Value.Basic

/-!
# Reading JSON

`read?` accepts one value with blanks around it. Numbers without point and exponent are integers of
any size; not-a-number and the infinities are accepted by name. Of two fields with one name the map
keeps the place of the first and the value of the last.
-/

namespace TickWalk.Json

/-- The four blanks of the format. -/
def isBlank (c : Char) : Bool := c == ' ' || c == '\n' || c == '\r' || c == '\t'

def skipBlanks (s : List Char) : List Char := s.dropWhile isBlank

def afterWord? : List Char → List Char → Option (List Char)
  | [], s => some s
  | w :: ws, c :: s => if c = w then afterWord? ws s else none
  | _ :: _, [] => none

def digits? (s : List Char) : Option (List Char × List Char) :=
  let ds := s.takeWhile Char.isDigit
  if ds.isEmpty then none else some (ds, s.dropWhile Char.isDigit)

def wholeDigits? (s : List Char) : Option (List Char × List Char) := do
  let (ds, rest) ← digits? s
  if ds.head? = some '0' && ds.length ≠ 1 then none else some (ds, rest)

def fraction? : List Char → Option (List Char × List Char)
  | '.' :: rest => do
    let (ds, after) ← digits? rest
    some ('.' :: ds, after)
  | rest => some ([], rest)

def exponent? : List Char → Option (List Char × List Char)
  | [] => some ([], [])
  | c :: rest =>
    if c = 'e' || c = 'E' then
      match rest with
      | sign :: more =>
        if sign = '+' || sign = '-' then do
          let (ds, after) ← digits? more
          some (c :: sign :: ds, after)
        else do
          let (ds, after) ← digits? rest
          some (c :: ds, after)
      | [] => none
    else some ([], c :: rest)

/-- A number without its sign, and what follows it. -/
def unsigned? (negative : Bool) (s : List Char) : Option (Value × List Char) := do
  let (whole, s) ← wholeDigits? s
  let (fraction, s) ← fraction? s
  let (exponent, s) ← exponent? s
  if fraction.isEmpty && exponent.isEmpty then
    let n : Int := Decimal.natOfDigits whole
    some (.int (if negative then -n else n), s)
  else
    let x ← Decimal.Scientific.read? (whole ++ fraction ++ exponent)
    some (.float (Decimal.Scientific.toFloat ⟨negative, x.digits, x.exponent⟩), s)

def number? : List Char → Option (Value × List Char)
  | '-' :: 'I' :: rest => do
    let after ← afterWord? "nfinity".toList rest
    some (.float (-(1.0 / 0.0)), after)
  | '-' :: rest => unsigned? true rest
  | rest => unsigned? false rest

/-- Adds a field; one of the same name gets the new value. -/
def putField (fields : List (String × Value)) (name : String) (v : Value) : List (String × Value) :=
  match fields with
  | [] => [(name, v)]
  | (n, w) :: rest => if n = name then (n, v) :: rest else (n, w) :: putField rest name v

mutual

def readValue : Nat → List Char → Option (Value × List Char)
  | 0, _ => none
  | fuel + 1, s =>
    match s with
    | [] => none
    | '"' :: rest => (readText rest).map fun p => (.text p.1, p.2)
    | '[' :: rest =>
      match skipBlanks rest with
      | ']' :: after => some (.list [], after)
      | rest => (readItems fuel rest).map fun p => (.list p.1, p.2)
    | '\x7b' :: rest =>
      match skipBlanks rest with
      | '\x7d' :: after => some (.map [], after)
      | rest =>
        (readFields fuel rest).map fun p =>
          (.map (p.1.foldl (fun fields f => putField fields f.1 f.2) []), p.2)
    | 'n' :: rest => (afterWord? ['u', 'l', 'l'] rest).map (.null, ·)
    | 't' :: rest => (afterWord? ['r', 'u', 'e'] rest).map (.bool true, ·)
    | 'f' :: rest => (afterWord? ['a', 'l', 's', 'e'] rest).map (.bool false, ·)
    | 'N' :: rest => (afterWord? ['a', 'N'] rest).map (.float (0.0 / 0.0), ·)
    | 'I' :: rest => (afterWord? "nfinity".toList rest).map (.float (1.0 / 0.0), ·)
    | rest => number? rest

def readItems : Nat → List Char → Option (List Value × List Char)
  | 0, _ => none
  | fuel + 1, s => do
    let (v, rest) ← readValue fuel s
    match skipBlanks rest with
    | ']' :: after => some ([v], after)
    | ',' :: rest =>
      let (vs, after) ← readItems fuel (skipBlanks rest)
      some (v :: vs, after)
    | _ => none

def readFields : Nat → List Char → Option (List (String × Value) × List Char)
  | 0, _ => none
  | fuel + 1, s => do
    match s with
    | '"' :: rest =>
      let (name, rest) ← readText rest
      match skipBlanks rest with
      | ':' :: rest =>
        let (v, rest) ← readValue fuel (skipBlanks rest)
        match skipBlanks rest with
        | '\x7d' :: after => some ([(name, v)], after)
        | ',' :: rest =>
          let (fields, after) ← readFields fuel (skipBlanks rest)
          some ((name, v) :: fields, after)
        | _ => none
      | _ => none
    | _ => none

end

/-- The one value of a text; every nested value takes at least one character. -/
def read? (s : String) : Option Value := do
  let (v, rest) ← readValue (s.length + 1) (skipBlanks s.toList)
  if (skipBlanks rest).isEmpty then some v else none

end TickWalk.Json
