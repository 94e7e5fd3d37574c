/-!
# Number/Shortest — the shortest decimal that reads back

Many decimals are nearest to one and the same float.  They fill the interval between the halves of
the gaps to its two neighbours, the ends included when the mantissa is even:

```
   ──────┼─────────────(───────────●──────────)──────────────┼──────
       lower         low         value       high          upper
```

The shortest of them lies on the coarsest grid of powers of ten that has a point in the interval.
One of the two grid points around the value is then such a point: the nearer one if both are.
-/

namespace ZGrid.Shortest

/-- Which of two equally near decimals is taken. -/
inductive Tie where
  /-- The larger one. -/
  | up
  /-- The one with an even last digit. -/
  | even
deriving DecidableEq, Repr

/-! ## One grid

For a value `mantissa · 2 ^ exponent` lengths are counted in quarters of the last binary place.  A
grid point `n · 10 ^ k` is compared with `x` quarters as `n · point` with `x · quarter`, two
natural numbers. -/

/-- The scaled lengths of a grid step and of a quarter of the last binary place. -/
structure Scale where
  /-- The length of a grid step. -/
  point : Nat
  /-- The length of a quarter of the last binary place. -/
  quarter : Nat

/-- The scaled lengths for the grid of `10 ^ k` and the last binary place `2 ^ exponent`. -/
def Scale.of (exponent k : Int) : Scale where
  point := Nat.pow 10 k.toNat * Nat.pow 2 (2 - exponent).toNat
  quarter := Nat.pow 10 (-k).toNat * Nat.pow 2 (exponent - 2).toNat

/-- The quarters from zero to the lower end of the interval.  The gap below is half as wide where
the binary places get finer. -/
def low (mantissa : Nat) (exponent : Int) : Nat :=
  if mantissa = Nat.pow 2 52 ∧ exponent > -1074 then 4 * mantissa - 1 else 4 * mantissa - 2

/-- The quarters from zero to the upper end of the interval. -/
def high (mantissa : Nat) : Nat := 4 * mantissa + 2

/-- A grid point lies in the interval of the value. -/
def reads (mantissa : Nat) (exponent : Int) (scale : Scale) (n : Nat) : Bool :=
  let lower := low mantissa exponent * scale.quarter
  let upper := high mantissa * scale.quarter
  if mantissa % 2 = 0 then lower ≤ n * scale.point ∧ n * scale.point ≤ upper
  else lower < n * scale.point ∧ n * scale.point < upper

/-- The point of a grid that is taken for a value, if one reads back. -/
def onGrid? (tie : Tie) (mantissa : Nat) (exponent k : Int) : Option Nat :=
  let scale := Scale.of exponent k
  let value := 4 * mantissa * scale.quarter
  let below := value / scale.point
  let above := below + 1
  match reads mantissa exponent scale below, reads mantissa exponent scale above with
  | false, false => none
  | true, false => some below
  | false, true => some above
  | true, true =>
    let fromBelow := value - below * scale.point
    let toAbove := above * scale.point - value
    if fromBelow < toAbove then some below
    else if toAbove < fromBelow then some above
    else match tie with
      | .up => some above
      | .even => some (if below % 2 = 0 then below else above)

/-! ## The coarsest grid -/

/-- The first answer on the grids from `10 ^ k` down. -/
def search (tie : Tie) (mantissa : Nat) (exponent : Int) : (grids : Nat) → (k : Int) → Nat × Int
  | 0, k => (4 * mantissa * (Scale.of exponent k).quarter / (Scale.of exponent k).point, k)
  | grids + 1, k =>
    match onGrid? tie mantissa exponent k with
    | some n => (n, k)
    | none => search tie mantissa exponent grids (k - 1)

/-- The power of ten just past a value: `log₁₀ 2` is a little less than 30103 / 100000. -/
def start (mantissa : Nat) (exponent : Int) : Int :=
  (exponent + mantissa.log2 + 2) * 30103 / 100000 + 1

/-- The shortest decimal `n · 10 ^ k` that is nearest to `mantissa · 2 ^ exponent`; seventeen
digits always suffice, and the search begins at most two places above the first one. -/
def digits (tie : Tie) (mantissa : Nat) (exponent : Int) : Nat × Int :=
  if mantissa = 0 then (0, 0) else search tie mantissa exponent 20 (start mantissa exponent)

end ZGrid.Shortest
