/-!
# Number/Numeral — a decimal number as it is written

A numeral keeps the parts of the text: sign, whole part, digits behind the point, exponent.  Its
value is `± coefficient · 10 ^ scale`, where the coefficient reads all digits in one go:

```
   -12.05e3      coefficient 1205      scale 3 - 2 = 1
```
-/

namespace ZGrid

/-- A digit from 0 to 9. -/
abbrev Digit := Fin 10

namespace Digit

/-- The character of a digit. -/
def toChar (digit : Digit) : Char := Nat.digitChar digit.val

/-- The digit of an ASCII character. -/
def ofChar? (c : Char) : Option Digit :=
  if h : '0' ≤ c ∧ c ≤ '9' then
    some ⟨c.toNat - '0'.toNat, by
      have h₂ : c.toNat ≤ '9'.toNat := h.2
      have : '9'.toNat = 57 := rfl
      have : '0'.toNat = 48 := rfl
      omega⟩
  else none

/-- The digits at the start of a text, and what follows them. -/
def span : List Char → List Digit × List Char
  | [] => ([], [])
  | c :: rest =>
    match ofChar? c with
    | some digit => (digit :: (span rest).1, (span rest).2)
    | none => ([], c :: rest)

/-- The number that some digits continue, read from left to right. -/
def foldNat (start : Nat) (digits : List Digit) : Nat :=
  digits.foldl (fun value digit => 10 * value + digit.val) start

/-- The lowest `width` digits of a number, leading zeros kept. -/
def ofNat : (width number : Nat) → List Digit
  | 0, _ => []
  | width + 1, number =>
    ofNat width (number / 10) ++ [⟨number % 10, Nat.mod_lt _ (by decide)⟩]

@[simp] theorem length_ofNat (width number : Nat) : (ofNat width number).length = width := by
  induction width generalizing number with
  | zero => rfl
  | succ width ih => simp [ofNat, ih]

/-- A digit is read back from its character. -/
theorem ofChar?_toChar : ∀ digit : Digit, ofChar? digit.toChar = some digit := by decide

end Digit

/-- A decimal number as it is written. -/
structure Numeral where
  /-- A minus sign stands in front. -/
  negative : Bool
  /-- The part before the point. -/
  whole : Nat
  /-- The digits behind the point; without any there is no point. -/
  fraction : List Digit
  /-- The power of ten behind the letter `e`. -/
  exponent : Option Int
deriving DecidableEq, Repr

namespace Numeral

/-- All digits read as one number. -/
def coefficient (n : Numeral) : Nat := Digit.foldNat n.whole n.fraction

/-- The power of ten that the coefficient is multiplied with. -/
def scale (n : Numeral) : Int := n.exponent.getD 0 - n.fraction.length

/-- A whole number without a sign of its own: no point, no exponent, and no minus before zero. -/
def toInt? (n : Numeral) : Option Int :=
  if n.fraction = [] ∧ n.exponent = none then
    if n.negative then if n.whole = 0 then none else some (-n.whole) else some n.whole
  else none

/-- The numeral of a whole number. -/
def ofInt (value : Int) : Numeral := ⟨value < 0, value.natAbs, [], none⟩

/-! ## The nearest float

A coefficient of `d` digits at scale `s` lies below `10 ^ (d + s)` and, unless it is zero, at least
at `10 ^ (d + s - 1)`.  Past 310 that is beyond every finite float, below -330 it is nearer to zero
than to the least positive one, so exponents of any length are cut off before the powers of ten
are multiplied out. -/

/-- The float nearest to `coefficient · 10 ^ scale`. -/
def nearest (coefficient : Nat) (scale : Int) : Float :=
  if coefficient = 0 then 0 else
  let reach := (Nat.toDigits 10 coefficient).length + scale
  if reach > 310 then 1.0 / 0.0
  else if reach < -330 then 0
  else if scale < 0 then Float.ofScientific coefficient true scale.natAbs
  else Float.ofScientific coefficient false scale.natAbs

/-- The float nearest to a numeral, an infinity past the largest one. -/
def toFloat (n : Numeral) : Float :=
  let magnitude := nearest n.coefficient n.scale
  if n.negative then -magnitude else magnitude

/-! ## The text of a numeral -/

/-- The text of an exponent, with a plus sign if wanted. -/
def exponentText (plus : Bool) (exponent : Int) : List Char :=
  'e' :: ((if exponent < 0 then ['-'] else if plus then ['+'] else []) ++
    Nat.toDigits 10 exponent.natAbs)

/-- The characters of a numeral, `plus` asking for a sign before every exponent. -/
def toChars (plus : Bool) (n : Numeral) : List Char :=
  (if n.negative then ['-'] else []) ++ Nat.toDigits 10 n.whole ++
    (if n.fraction = [] then [] else '.' :: n.fraction.map Digit.toChar) ++
    (n.exponent.map (exponentText plus)).getD []

end Numeral

end ZGrid
