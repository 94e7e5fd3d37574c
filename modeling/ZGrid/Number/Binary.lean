/-!
# Number/Binary — the exact value of a float

A finite float is `± mantissa · 2 ^ exponent`, read off its 64 bits:

```
   sign 1 | exponent field 11 | fraction 52
   field 0          fraction · 2 ^ -1074
   field 1 … 2046   (2 ^ 52 + fraction) · 2 ^ ((field : Int) - 1075)
   field 2047       an infinity, or no number
```

Rounding to a whole number is then integer division, exact at every size.
-/

namespace ZGrid

/-- The value of a float. -/
inductive Binary where
  /-- No number. -/
  | nan
  /-- An infinity. -/
  | infinite (negative : Bool)
  /-- The number `± mantissa · 2 ^ exponent`. -/
  | finite (negative : Bool) (mantissa : Nat) (exponent : Int)
deriving DecidableEq, Repr

namespace Binary

/-- The value written in 64 bits. -/
def ofBits (bits : Nat) : Binary :=
  let negative := bits / Nat.pow 2 63 % 2 == 1
  let field : Nat := bits / Nat.pow 2 52 % Nat.pow 2 11
  let fraction : Nat := bits % Nat.pow 2 52
  if field = 0 then .finite negative fraction (-1074)
  else if field = 2047 then if fraction = 0 then .infinite negative else .nan
  else .finite negative (Nat.pow 2 52 + fraction) ((field : Int) - 1075)

/-- The value of a float. -/
def ofFloat (x : Float) : Binary := ofBits x.toBits.toNat

/-! ## Whole numbers near a value

For a magnitude `mantissa · 2 ^ exponent` with a negative exponent the divisor is `2 ^ -exponent`;
otherwise the magnitude is whole already. -/

/-- The numerator and the denominator of a magnitude. -/
def ratio (mantissa : Nat) (exponent : Int) : Nat × Nat :=
  (mantissa * Nat.pow 2 exponent.toNat, Nat.pow 2 (-exponent).toNat)

/-- The largest whole number at most `± mantissa · 2 ^ exponent`. -/
def floor (negative : Bool) (mantissa : Nat) (exponent : Int) : Int :=
  let (above, below) := ratio mantissa exponent
  (if negative then -(above : Int) else above).fdiv below

/-- The least whole number at least `± mantissa · 2 ^ exponent`. -/
def ceil (negative : Bool) (mantissa : Nat) (exponent : Int) : Int :=
  -floor (!negative) mantissa exponent

/-- The whole number nearest to `± mantissa · 2 ^ exponent`, a half going away from zero. -/
def round (negative : Bool) (mantissa : Nat) (exponent : Int) : Int :=
  let (above, below) := ratio mantissa exponent
  let magnitude := (2 * above + below) / (2 * below)
  if negative then -(magnitude : Int) else magnitude

/-- A value brought into the range of 64 bits by a rounding, what lies past an end going to that
end and what is no number to zero. -/
def toInt64 (rounding : Bool → Nat → Int → Int) : Binary → Int64
  | nan => 0
  | infinite negative => if negative then Int64.minValue else Int64.maxValue
  | finite negative mantissa exponent =>
    Int64.ofIntClamp (rounding negative mantissa exponent)

end Binary

/-! ## Floats -/

namespace Float64

/-- A float that is a number. -/
def isFinite (x : Float) : Bool :=
  match Binary.ofFloat x with
  | .finite .. => true
  | _ => false

/-- The largest whole number at most a float, held within 64 bits. -/
def floor (x : Float) : Int64 := (Binary.ofFloat x).toInt64 Binary.floor

/-- The whole number nearest to a float, halves away from zero, held within 64 bits. -/
def round (x : Float) : Int64 := (Binary.ofFloat x).toInt64 Binary.round

/-- The least whole number at least a float, as a float. -/
def ceil (x : Float) : Float :=
  match Binary.ofFloat x with
  | .finite negative mantissa exponent =>
    if exponent < 0 then Float.ofInt (Binary.ceil negative mantissa exponent) else x
  | _ => x

end Float64

end ZGrid
