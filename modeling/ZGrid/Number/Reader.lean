import ZGrid.Number.Numeral

/-!
# Number/Reader — numbers in properties and query texts

Two grammars, each for a whole text with nothing around it:

```
   float      sign? ( digits ( . digits? )? | . digits ) ( (e|E) sign? digits )?
              sign? ( inf | infinity | nan )           in any letter case
   integer    sign? digits                             within 64 bits
```

A digit is an ASCII digit, and a float is the one nearest to what is written.
-/

namespace ZGrid.Number

/-- A sign at the start of a text, and what follows it. -/
def sign : List Char → Bool × List Char
  | '-' :: rest => (true, rest)
  | '+' :: rest => (false, rest)
  | text => (false, text)

/-- The digits that make up a whole text, at least one. -/
def digits? (text : List Char) : Option (List Digit) :=
  match Digit.span text with
  | (digit :: digits, []) => some (digit :: digits)
  | _ => none

/-- The exponent behind the letter, up to the end of the text. -/
def exponent? (text : List Char) : Option Int :=
  let (negative, rest) := sign text
  (digits? rest).map fun digits =>
    let size : Int := Digit.foldNat 0 digits
    if negative then -size else size

/-- The part of a number behind its point, and what follows it. -/
def fraction : List Char → List Digit × List Char
  | '.' :: rest => Digit.span rest
  | rest => ([], rest)

/-- The numeral that makes up a whole text, without its sign. -/
def numeral? (negative : Bool) (text : List Char) : Option Numeral :=
  let (whole, rest) := Digit.span text
  let (fraction, rest) := fraction rest
  if whole = [] ∧ fraction = [] then none else
  let size := Digit.foldNat 0 whole
  match rest with
  | [] => some ⟨negative, size, fraction, none⟩
  | c :: rest =>
    if c = 'e' ∨ c = 'E' then
      (exponent? rest).map fun exponent => ⟨negative, size, fraction, some exponent⟩
    else none

/-- The word for a float that has no digits, in any letter case. -/
def word? (text : List Char) : Option Float :=
  match String.ofList (text.map Char.toLower) with
  | "inf" | "infinity" => some (1.0 / 0.0)
  | "nan" => some (0.0 / 0.0)
  | _ => none

/-- The float that makes up a whole text. -/
def float? (text : List Char) : Option Float :=
  let (negative, rest) := sign text
  match numeral? negative rest with
  | some numeral => some numeral.toFloat
  | none => (word? rest).map fun x => if negative then -x else x

/-- The whole number of 64 bits that makes up a whole text. -/
def int64? (text : List Char) : Option Int64 :=
  let (negative, rest) := sign text
  (digits? rest).bind fun digits =>
    let size : Int := Digit.foldNat 0 digits
    let value := if negative then -size else size
    if Int64.minValue.toInt ≤ value ∧ value ≤ Int64.maxValue.toInt then some (Int64.ofInt value)
    else none

end ZGrid.Number
