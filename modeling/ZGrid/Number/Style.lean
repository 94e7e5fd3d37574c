import ZGrid.Number.Binary
import ZGrid.Number.Numeral
import ZGrid.Number.Shortest

/-!
# Number/Style — how a float is written

Three places write floats, each with the shortest digits and each with its own layout:

```
              1e16                  0.00001     5       no number, infinities
   plain      10000000000000000     0.00001     5       NaN  inf  -inf
   spoken     1e16                  1e-5        5.0     NaN  inf  -inf
   document   1e+16                 0.00001     5.0     none
```

A layout turns the digits into a numeral; the text is the numeral's.
-/

namespace ZGrid

/-- The layout of a float. -/
structure Style where
  /-- Whether a number is written without an exponent, by the number of its digits before the
  point (none or fewer for a number below 1). -/
  positional : Int → Bool
  /-- A whole number ends in `.0`. -/
  pointZero : Bool
  /-- A positive exponent has a sign. -/
  plus : Bool
  /-- The digits taken where two are equally near. -/
  tie : Shortest.Tie

namespace Style

/-- Answers and error messages: no exponent, and no point in a whole number. -/
def plain : Style := ⟨fun _ => true, false, false, .up⟩

/-- Coordinates in log lines: an exponent from `1e16` on and below `1e-4`. -/
def spoken : Style := ⟨fun places => -4 < places ∧ places ≤ 16, true, false, .up⟩

/-- Numbers of a document: a signed exponent from `1e16` on and below `1e-5`, a tie going to the
even digit. -/
def document : Style := ⟨fun places => -5 < places ∧ places ≤ 16, true, true, .even⟩

/-- The numeral of `± n · 10 ^ k`. -/
def layout (style : Style) (negative : Bool) (n : Nat) (k : Int) : Numeral :=
  let length := (Nat.toDigits 10 n).length
  let zero : List Digit := if style.pointZero then Digit.ofNat 1 0 else []
  if style.positional (length + k) then
    if k < 0 then
      ⟨negative, n / Nat.pow 10 k.natAbs, Digit.ofNat k.natAbs (n % Nat.pow 10 k.natAbs), none⟩
    else ⟨negative, n * Nat.pow 10 k.natAbs, zero, none⟩
  else
    let fraction := Digit.ofNat (length - 1) (n % Nat.pow 10 (length - 1))
    ⟨negative, n / Nat.pow 10 (length - 1), fraction, some (length - 1 + k)⟩

/-- The numeral of a finite float. -/
def numeral? (style : Style) (x : Float) : Option Numeral :=
  match Binary.ofFloat x with
  | .finite negative mantissa exponent =>
    let (n, k) := Shortest.digits style.tie mantissa exponent
    some (style.layout negative n k)
  | _ => none

/-- The text of a float. -/
def text (style : Style) (x : Float) : String :=
  match Binary.ofFloat x with
  | .nan => "NaN"
  | .infinite negative => if negative then "-inf" else "inf"
  | .finite .. => String.ofList (((style.numeral? x).map (Numeral.toChars style.plus)).getD [])

end Style

end ZGrid
