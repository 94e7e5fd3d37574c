/-!
# Curve — the Z-order key of a grid cell

A cell of a square grid is a row and a column.  Its **key** interleaves their bits, the row on the
odd places and the column on the even ones:

```
   row        r₂    r₁    r₀
   column        c₂    c₁    c₀
   key        r₂ c₂ r₁ c₁ r₀ c₀
```

so the four quarters of an aligned square are four consecutive runs of keys, and an aligned square
is one run.  A grid of `level` halvings has `2 ^ level` rows; its keys read one bit more of each
axis, so that a cell just past the grid still has a key of its own.
-/

namespace ZGrid

/-- The integer that names a grid cell. -/
abbrev Key := UInt64

/-! ## Interleaving over the naturals

One step peels the lowest bit off each axis, so a law of the key is one induction on the number of
bits. -/

/-- The interleaving of the lowest `bits` bits of a row and a column. -/
def interleave : (bits row column : Nat) → Nat
  | 0, _, _ => 0
  | bits + 1, row, column =>
    4 * interleave bits (row / 2) (column / 2) + (2 * (row % 2) + column % 2)

/-- The row and the column whose lowest `bits` bits a number interleaves. -/
def deinterleave : (bits key : Nat) → Nat × Nat
  | 0, _ => (0, 0)
  | bits + 1, key =>
    let upper := deinterleave bits (key / 4)
    (2 * upper.1 + key / 2 % 2, 2 * upper.2 + key % 2)

@[simp] theorem interleave_zero (row column : Nat) : interleave 0 row column = 0 := rfl

theorem interleave_succ (bits row column : Nat) :
    interleave (bits + 1) row column =
      4 * interleave bits (row / 2) (column / 2) + (2 * (row % 2) + column % 2) := rfl

@[simp] theorem deinterleave_zero (key : Nat) : deinterleave 0 key = (0, 0) := rfl

theorem deinterleave_succ (bits key : Nat) :
    deinterleave (bits + 1) key =
      (2 * (deinterleave bits (key / 4)).1 + key / 2 % 2,
        2 * (deinterleave bits (key / 4)).2 + key % 2) := rfl

/-! ## The key of a cell -/

/-- The key of a cell in a grid of `level` halvings. -/
def cellKey (level row column : Nat) : Key := (interleave (level + 1) row column).toUInt64

/-- The row and the column that a key names in a grid of `level` halvings. -/
def keyCell (level : Nat) (key : Key) : Nat × Nat := deinterleave (level + 1) key.toNat

end ZGrid
