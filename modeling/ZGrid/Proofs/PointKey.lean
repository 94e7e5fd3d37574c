import ZGrid.Grid
import ZGrid.Proofs.Interleave

/-!
# Proofs/PointKey — the cell of a point and its key

A key has the `level + 1` low bits of a row and of a column.  The highest two of them tell whether
the key is that of a cell of the grid:

```
   row                 …  r₃ │ r₂  r₁  r₀            level = 2
   column              …  c₃ │ c₂  c₁  c₀
   key       lost  ◂──       │ r₂  c₂  r₁  c₁  r₀  c₀       a cell of the grid  ⟺  r₂ = c₂ = 0
```

With no bit lost a key and a cell determine each other (`cellKey_eq_iff`, `cellKey_inj`).
-/

namespace ZGrid

/-! ## The highest bits -/

/-- The highest of some bits is clear when what they amount to is less than it. -/
theorem mod_two_pow_succ_lt_iff (bits n : Nat) :
    n % 2 ^ (bits + 1) < 2 ^ bits ↔ n / 2 ^ bits % 2 = 0 := by
  have hlow := Nat.mod_lt n (Nat.two_pow_pos bits)
  rw [Nat.pow_succ, Nat.mod_mul]
  obtain hbit | hbit := Nat.mod_two_eq_zero_or_one (n / 2 ^ bits)
  · rw [hbit]
    omega
  · rw [hbit]
    omega

/-- **An interleaving lies in the first quarter** when the highest bits of the row and of the column
are clear. -/
theorem interleave_succ_lt_iff (bits row column : Nat) :
    interleave (bits + 1) row column < 4 ^ bits
      ↔ row % 2 ^ (bits + 1) < 2 ^ bits ∧ column % 2 ^ (bits + 1) < 2 ^ bits := by
  have hlow := interleave_lt bits row column
  rw [interleave_add, interleave_succ, interleave_zero, mod_two_pow_succ_lt_iff,
    mod_two_pow_succ_lt_iff]
  obtain hrow | hrow := Nat.mod_two_eq_zero_or_one (row / 2 ^ bits) <;>
    obtain hcolumn | hcolumn := Nat.mod_two_eq_zero_or_one (column / 2 ^ bits) <;>
    rw [hrow, hcolumn] <;> omega

/-! ## Keys and cells -/

section Key

variable {level row column : Nat} (hlevel : level ≤ 31)
include hlevel

theorem toNat_cellKey_lt (row column : Nat) : (cellKey level row column).toNat < 4 ^ (level + 1) :=
  toNat_cellKey hlevel row column ▸ interleave_lt (level + 1) row column

/-- The key of a cell is one of the grid when the bits of the cell that it has are those of a cell
of the grid. -/
theorem toNat_cellKey_lt_iff (row column : Nat) : (cellKey level row column).toNat < 4 ^ level
    ↔ row % 2 ^ (level + 1) < 2 ^ level ∧ column % 2 ^ (level + 1) < 2 ^ level := by
  rw [toNat_cellKey hlevel, interleave_succ_lt_iff]

theorem keyCell_cellKey (hrow : row < 2 ^ (level + 1)) (hcolumn : column < 2 ^ (level + 1)) :
    keyCell level (cellKey level row column) = (row, column) := by
  rw [keyCell, toNat_cellKey hlevel, deinterleave_interleave, Nat.mod_eq_of_lt hrow,
    Nat.mod_eq_of_lt hcolumn]

/-- With no bit lost a cell has a key exactly when the key names the cell. -/
theorem cellKey_eq_iff {key : Key} (hrow : row < 2 ^ (level + 1))
    (hcolumn : column < 2 ^ (level + 1)) (hkey : key.toNat < 4 ^ (level + 1)) :
    cellKey level row column = key ↔ keyCell level key = (row, column) := by
  constructor
  · rintro rfl
    exact keyCell_cellKey hlevel hrow hcolumn
  · intro hcell
    have hback := interleave_deinterleave (level + 1) key.toNat
    rw [keyCell] at hcell
    rw [hcell, Nat.mod_eq_of_lt hkey] at hback
    rw [← UInt64.toNat_inj, toNat_cellKey hlevel, hback]

/-- With no bit lost two cells with one key are the same cell. -/
theorem cellKey_inj {row' column' : Nat} (hrow : row < 2 ^ (level + 1))
    (hcolumn : column < 2 ^ (level + 1)) (hrow' : row' < 2 ^ (level + 1))
    (hcolumn' : column' < 2 ^ (level + 1)) :
    cellKey level row column = cellKey level row' column' ↔ row = row' ∧ column = column' := by
  rw [← UInt64.toNat_inj, toNat_cellKey hlevel, toNat_cellKey hlevel,
    interleave_inj hrow hcolumn hrow' hcolumn']

end Key

/-! ## From a point to its key -/

namespace Grid

variable {α : Type} {grid : Grid α} {longitude latitude row column : Int64}

theorem key_eq (grid : Grid α) (row column : Int64) :
    grid.key row column = cellKey grid.level row.toInt.toNat column.toInt.toNat := rfl

/-- Up to level 31 the limit is twice the number of rows. -/
theorem toInt_limit (hlevel : grid.level ≤ 31) : grid.limit.toInt = 2 ^ (grid.level + 1) := by
  have hfits : Nat.pow 2 (grid.level + 1) < 2 ^ 63 :=
    Nat.pow_lt_pow_right (by decide) (by omega)
  rw [limit, Int64.toInt_ofNat_of_lt hfits]
  exact Nat.cast_pow 2 (grid.level + 1)

theorem isAliased_iff (hlevel : grid.level ≤ 31) : grid.isAliased row column = true
    ↔ 2 ^ (grid.level + 1) ≤ row.toInt ∨ 2 ^ (grid.level + 1) ≤ column.toInt := by
  rw [isAliased, Bool.or_eq_true, decide_eq_true_iff, decide_eq_true_iff,
    Int64.le_iff_toInt_le, Int64.le_iff_toInt_le, toInt_limit hlevel]

variable [Degrees α]

/-- Before the first row or the first column a point has no cell. -/
theorem locate_of_neg (h : grid.coordinate longitude latitude = .ok (row, column))
    (hneg : row < 0 ∨ column < 0) :
    grid.locate longitude latitude = .error (.outOfDomain row column) := by
  have hthrow : (row < 0 || column < 0) = true := by simpa using hneg
  rw [locate, h]
  change (if (row < 0 || column < 0) = true then _ else _) = _
  rw [if_pos hthrow]
  rfl

theorem locate_of_nonneg (h : grid.coordinate longitude latitude = .ok (row, column))
    (hneg : ¬ (row < 0 ∨ column < 0)) :
    grid.locate longitude latitude = .ok (row, column) := by
  have hpass : ¬ (row < 0 || column < 0) = true := by simpa using hneg
  rw [locate, h]
  change (if (row < 0 || column < 0) = true then _ else _) = _
  rw [if_neg hpass]
  rfl

/-- From the first row and the first column on a point has the key of its cell. -/
theorem encode_of_nonneg (h : grid.coordinate longitude latitude = .ok (row, column))
    (hneg : ¬ (row < 0 ∨ column < 0)) :
    grid.encode longitude latitude = .ok (grid.key row column) := by
  rw [encode, locate_of_nonneg h hneg]
  rfl

end Grid

end ZGrid
