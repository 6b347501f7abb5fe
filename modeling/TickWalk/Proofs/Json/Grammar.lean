import TickWalk.Json.Read

/-!
# The grammar of JSON

What a JSON text is by the rules of the format, independently of any reader: values with blanks between
their tokens, numbers without a leading zero, and texts in which control characters, quotes and
backslashes are escaped. Not-a-number and the infinities, which the reader accepts by name, are no
values of the grammar.
-/

namespace TickWalk.Json

def Blanks (s : List Char) : Prop := ∀ c ∈ s, isBlank c = true

def Digits (s : List Char) : Prop := s ≠ [] ∧ ∀ c ∈ s, c.isDigit = true

/-- Digits that do not start with a zero, unless they are nothing else. -/
def Whole (s : List Char) : Prop := Digits s ∧ (s.head? = some '0' → s = ['0'])

inductive Fraction : List Char → Prop
  | absent : Fraction []
  | digits {s : List Char} (h : Digits s) : Fraction ('.' :: s)

inductive Exponent : List Char → Prop
  | absent : Exponent []
  | unsigned {e : Char} {s : List Char} (he : e = 'e' ∨ e = 'E') (h : Digits s) : Exponent (e :: s)
  | signed {e sign : Char} {s : List Char} (he : e = 'e' ∨ e = 'E')
      (hsign : sign = '+' ∨ sign = '-') (h : Digits s) : Exponent (e :: sign :: s)

/-- A number; only a minus sign may stand in front of it. -/
inductive Number : List Char → Prop
  | number {sign whole fraction exponent : List Char} (hsign : sign = [] ∨ sign = ['-'])
      (hwhole : Whole whole) (hfraction : Fraction fraction) (hexponent : Exponent exponent) :
      Number (sign ++ whole ++ fraction ++ exponent)

/-- What may stand between the quotes of a text. -/
inductive Characters : List Char → Prop
  | nil : Characters []
  | plain {c : Char} {s : List Char} (hcontrol : ' ' ≤ c) (hquote : c ≠ '"') (hslash : c ≠ '\\')
      (h : Characters s) : Characters (c :: s)
  | short {c : Char} {s : List Char} (hc : c ∈ ['"', '\\', '/', 'b', 'f', 'n', 'r', 't'])
      (h : Characters s) : Characters ('\\' :: c :: s)
  | unit {digits s : List Char} (hlength : digits.length = 4)
      (hdigits : ∀ d ∈ digits, (Text.hexValue? d).isSome) (h : Characters s) :
      Characters ('\\' :: 'u' :: digits ++ s)

mutual

inductive IsValue : List Char → Prop
  | null : IsValue ['n', 'u', 'l', 'l']
  | true : IsValue ['t', 'r', 'u', 'e']
  | false : IsValue ['f', 'a', 'l', 's', 'e']
  | number {s : List Char} (h : Number s) : IsValue s
  | text {s : List Char} (h : Characters s) : IsValue ('"' :: s ++ ['"'])
  | noItems {gap : List Char} (hgap : Blanks gap) : IsValue ('[' :: gap ++ [']'])
  | list {s : List Char} (h : IsItems s) : IsValue ('[' :: s ++ [']'])
  | noFields {gap : List Char} (hgap : Blanks gap) : IsValue ('\x7b' :: gap ++ ['\x7d'])
  | map {s : List Char} (h : IsFields s) : IsValue ('\x7b' :: s ++ ['\x7d'])

inductive IsElement : List Char → Prop
  | padded {before value after : List Char} (hbefore : Blanks before) (hvalue : IsValue value)
      (hafter : Blanks after) : IsElement (before ++ value ++ after)

inductive IsItems : List Char → Prop
  | last {s : List Char} (h : IsElement s) : IsItems s
  | more {s rest : List Char} (h : IsElement s) (hrest : IsItems rest) : IsItems (s ++ ',' :: rest)

inductive IsField : List Char → Prop
  | named {before name gap value : List Char} (hbefore : Blanks before) (hname : Characters name)
      (hgap : Blanks gap) (hvalue : IsElement value) :
      IsField (before ++ '"' :: name ++ '"' :: gap ++ ':' :: value)

inductive IsFields : List Char → Prop
  | last {s : List Char} (h : IsField s) : IsFields s
  | more {s rest : List Char} (h : IsField s) (hrest : IsFields rest) : IsFields (s ++ ',' :: rest)

end

def Valid (s : String) : Prop := IsElement s.toList

def Ascii (s : String) : Prop := ∀ c ∈ s.toList, c.toNat < 128

end TickWalk.Json
