import Mathlib.Algebra.Order.Field.Basic
import Mathlib.Data.Rat.Floor
import Mathlib.Tactic.FieldSimp
import Mathlib.Tactic.Linarith
import Mathlib.Tactic.LinearCombination
import ZGrid.Grid.Derive
import ZGrid.Grid.Exact
import ZGrid.Proofs.BlockPath
import ZGrid.Proofs.PointKey

/-!
# Proofs/ExactGrid — three ways to a cell, one cell

Over the fractions a cell is laid out three times, each in its own way:

```
   the box of the grid, halved along a path     extentBox (block at the path)
   the row and column of a key, times Δ         extentBox ⟨row, row + 1, column, column + 1⟩
   a point, its distance divided by Δ           ⌊distance⌋ = row, ⌊distance⌋ = column
```

`extentBox`, the rows and columns of a block times the extent of a cell, is what the first two come
to (`follow_bounds`, `cellBox_eq`), and a quotient has the floor `row` exactly when the point lies
in row `row` of it (`floor_eq_iff`).
-/

namespace ZGrid

/-- A point inside the box, or on its western or southern side. -/
def Box.Owns (box : Box Rat) (point : Point Rat) : Prop :=
  (box.left ≤ point.x ∧ point.x < box.right) ∧ box.bottom ≤ point.y ∧ point.y < box.top

/-- The middle row of a block lies halfway between its ends. -/
theorem Extent.two_mul_middleRow (height i j : Nat) : 2 * (block (height + 1) i j).middleRow
    = (block (height + 1) i j).startRow + (block (height + 1) i j).stopRow := by
  have hside : 2 ^ (height + 1) = 2 * 2 ^ height := Nat.pow_succ'
  rw [middleRow, (isBlock_block ..).stopRow_eq, hside]
  omega

/-- The middle column of a block lies halfway between its ends. -/
theorem Extent.two_mul_middleColumn (height i j : Nat) : 2 * (block (height + 1) i j).middleColumn
    = (block (height + 1) i j).startColumn + (block (height + 1) i j).stopColumn := by
  have hside : 2 ^ (height + 1) = 2 * 2 ^ height := Nat.pow_succ'
  rw [middleColumn, (isBlock_block ..).stopColumn_eq, hside]
  omega

/-- A number held within 64 bits that comes out between the ends is unchanged. -/
theorem eq_toInt_of_ofIntClamp {z : Int} {n : Int64} (h : Int64.ofIntClamp z = n)
    (hleast : Int64.minValue.toInt < n.toInt) (hgreatest : n.toInt < Int64.maxValue.toInt) :
    z = n.toInt := by
  subst h
  by_cases hl : Int64.minValue.toInt ≤ z
  · by_cases hr : z ≤ Int64.maxValue.toInt
    · exact (Int64.toInt_ofIntClamp hl hr).symm
    · rw [Int64.ofIntClamp, dif_pos hl, dif_neg hr] at hgreatest
      exact absurd hgreatest (lt_irrefl _)
  · rw [Int64.ofIntClamp, dif_neg hl] at hleast
    exact absurd hleast (lt_irrefl _)

namespace Grid

/-- Cells with an extent along both axes, points in units of a positive ratio, and keys that hold
the bits of a row and a column: the grid of a configuration is one. -/
structure Regular (grid : Grid Rat) : Prop where
  /-- A cell has a width. -/
  deltaX_pos : 0 < grid.delta.x
  /-- A cell has a height. -/
  deltaY_pos : 0 < grid.delta.y
  /-- The ratio is positive. -/
  ratio_pos : 0 < grid.ratio
  /-- A key has room for two bits a halving and two more. -/
  level_le : grid.level ≤ 31

variable {grid : Grid Rat} {height : Nat}

theorem Regular.ratio_cast_pos (h : grid.Regular) : (0 : Rat) < grid.ratio.toInt :=
  Int.cast_pos.mpr (Int64.lt_iff_toInt_lt.mp h.ratio_pos)

/-- The point that two whole numbers name, in degrees. -/
def point (grid : Grid Rat) (longitude latitude : Int64) : Point Rat :=
  ⟨longitude.toInt / grid.ratio.toInt, latitude.toInt / grid.ratio.toInt⟩

/-! ## The box of a block -/

/-- The box of a block of cells. -/
def extentBox (grid : Grid Rat) (extent : Extent) : Box Rat where
  left := grid.origin.x + extent.startRow * grid.delta.x
  bottom := grid.origin.y + extent.startColumn * grid.delta.y
  right := grid.origin.x + extent.stopRow * grid.delta.x
  top := grid.origin.y + extent.stopColumn * grid.delta.y

/-- The midpoint of two multiples of a cell is the multiple halfway between them. -/
theorem midpoint_multiples {start middle stop : Nat} (h : 2 * middle = start + stop)
    (origin delta : Rat) :
    Midpoint.midpoint (origin + start * delta) (origin + stop * delta)
      = origin + middle * delta := by
  have h : (2 : Rat) * middle = start + stop := by exact_mod_cast h
  change origin + start * delta + (origin + stop * delta - (origin + start * delta)) / 2 = _
  linear_combination -(delta / 2) * h

/-- **A quarter of the box of a block is the box of the quarter.** -/
theorem quadrant_extentBox (grid : Grid Rat) (height i j : Nat) (quadrant : Quadrant) :
    (grid.extentBox (.block (height + 1) i j)).quadrant quadrant
      = grid.extentBox ((Extent.block (height + 1) i j).quadrant quadrant) := by
  have hcenter : (grid.extentBox (.block (height + 1) i j)).center
      = ⟨grid.origin.x + (Extent.block (height + 1) i j).middleRow * grid.delta.x,
        grid.origin.y + (Extent.block (height + 1) i j).middleColumn * grid.delta.y⟩ := by
    rw [Box.center, extentBox, midpoint_multiples (Extent.two_mul_middleRow ..),
      midpoint_multiples (Extent.two_mul_middleColumn ..)]
  cases quadrant <;> rw [Box.quadrant, hcenter] <;> rfl

/-- Halving the box of a block along a path leads to the box of the block at its end. -/
theorem follow_extentBox (grid : Grid Rat) {path : List Quadrant} (hpath : path.length ≤ height)
    (i j : Nat) : (grid.extentBox (.block height i j)).follow path
      = grid.extentBox ((Extent.block height i j).follow path) := by
  induction path generalizing height i j with
  | nil => rfl
  | cons quadrant path ih =>
    obtain ⟨height, rfl⟩ : ∃ half, height = half + 1 := ⟨height - 1, by simp at hpath; omega⟩
    rw [Box.follow_cons, Extent.follow_cons, quadrant_extentBox, Extent.quadrant_block]
    exact ih (Nat.le_of_succ_le_succ hpath) ..

theorem bounds_eq (grid : Grid Rat) : grid.bounds = grid.extentBox (.whole grid.level) := by
  have hside : ∀ origin delta : Rat,
      origin + Degrees.ofInt grid.dimension * delta
        = origin + (Nat.pow 2 grid.level : Nat) * delta :=
    fun _ _ => rfl
  simp [bounds, Box.between, corner, extentBox, Extent.whole, hside]

/-- **The box at the end of a path** is that of the block at its end. -/
theorem follow_bounds (grid : Grid Rat) {path : List Quadrant} (hpath : path.length ≤ grid.level) :
    grid.bounds.follow path = grid.extentBox ((Extent.whole grid.level).follow path) := by
  rw [bounds_eq, Extent.whole_eq_block, follow_extentBox grid hpath]

namespace Regular

/-! ## The box of a key -/

/-- **The box of a key** is that of the cell that the key names. -/
theorem cellBox_eq (h : grid.Regular) (key : Key) : grid.cellBox key
    = grid.extentBox ⟨(keyCell grid.level key).1, (keyCell grid.level key).1 + 1,
        (keyCell grid.level key).2, (keyCell grid.level key).2 + 1⟩ := by
  have hnext : ∀ (n : Nat) (origin delta : Rat),
      origin + Degrees.ofInt n * delta + delta = origin + (n + 1 : Nat) * delta := by
    intro n origin delta
    change origin + ((n : Int) : Rat) * delta + delta = _
    push_cast
    ring
  have hx := lt_add_of_pos_right (grid.origin.x + Degrees.ofInt (keyCell grid.level key).1
    * grid.delta.x) h.deltaX_pos
  have hy := lt_add_of_pos_right (grid.origin.y + Degrees.ofInt (keyCell grid.level key).2
    * grid.delta.y) h.deltaY_pos
  rw [cellBox]
  dsimp only
  rw [Box.ordered]
  dsimp only
  rw [if_pos hx, if_pos hy, hnext, hnext]
  rfl

/-! ## The cell of a point -/

/-- **A quotient has the floor `n` exactly when the point lies in row `n`**, the scale of the points
aside. -/
theorem floor_eq_iff {x origin delta ratio : Rat} (hdelta : 0 < delta) (hratio : 0 < ratio)
    {n : Int} : ((x - origin * ratio) / (delta * ratio)).floor = n
      ↔ origin + n * delta ≤ x / ratio ∧ x / ratio < origin + n * delta + delta := by
  have hscale : (x - origin * ratio) / (delta * ratio) = (x / ratio - origin) / delta := by
    field_simp
  rw [hscale]
  change ⌊(x / ratio - origin) / delta⌋ = n ↔ _
  rw [Int.floor_eq_iff, le_div_iff₀ hdelta, div_lt_iff₀ hdelta]
  constructor <;> rintro ⟨hlow, hhigh⟩ <;> constructor <;> linarith

/-- A regular grid has a row and a column for every point. -/
theorem coordinate_eq (h : grid.Regular) (longitude latitude : Int64) :
    grid.coordinate longitude latitude = .ok
      (Int64.ofIntClamp ((longitude.toInt - grid.origin.x * grid.ratio.toInt)
          / (grid.delta.x * grid.ratio.toInt) : Rat).floor,
        Int64.ofIntClamp ((latitude.toInt - grid.origin.y * grid.ratio.toInt)
          / (grid.delta.y * grid.ratio.toInt) : Rat).floor) := by
  have hx : Degrees.isZero grid.scaledDelta.x = false :=
    beq_false_of_ne (mul_pos h.deltaX_pos h.ratio_cast_pos).ne'
  have hy : Degrees.isZero grid.scaledDelta.y = false :=
    beq_false_of_ne (mul_pos h.deltaY_pos h.ratio_cast_pos).ne'
  have hfinite : ∀ x : Rat, Degrees.isFinite x = true := fun _ => rfl
  have hnone : grid.badAxis? = none := by simp [badAxis?, hx, hy, hfinite]
  rw [coordinate, hnone]
  rfl

/-- The box of a key owns a point whose distances from the origin, in cells, have the row and the
column of the key for their floors. -/
theorem owns_cellBox_iff_floor (h : grid.Regular) (longitude latitude : Int64) (key : Key) :
    (grid.cellBox key).Owns (grid.point longitude latitude)
      ↔ ((longitude.toInt - grid.origin.x * grid.ratio.toInt)
          / (grid.delta.x * grid.ratio.toInt) : Rat).floor = (keyCell grid.level key).1
        ∧ ((latitude.toInt - grid.origin.y * grid.ratio.toInt)
          / (grid.delta.y * grid.ratio.toInt) : Rat).floor = (keyCell grid.level key).2 := by
  rw [h.cellBox_eq, floor_eq_iff h.deltaX_pos h.ratio_cast_pos,
    floor_eq_iff h.deltaY_pos h.ratio_cast_pos]
  simp only [Box.Owns, extentBox, point, Nat.cast_add_one, add_one_mul, ← add_assoc,
    Int.cast_natCast]

/-- **The cell of a point is the cell whose box owns it.** -/
theorem owns_cellBox_iff (h : grid.Regular) {longitude latitude row column : Int64}
    (hcoordinate : grid.coordinate longitude latitude = .ok (row, column))
    (hrow : 0 ≤ row.toInt) (hrow' : row.toInt < 2 ^ (grid.level + 1))
    (hcolumn : 0 ≤ column.toInt) (hcolumn' : column.toInt < 2 ^ (grid.level + 1)) (key : Key) :
    (grid.cellBox key).Owns (grid.point longitude latitude)
      ↔ row.toInt = (keyCell grid.level key).1 ∧ column.toInt = (keyCell grid.level key).2 := by
  have hmost : (2 : Int) ^ (grid.level + 1) ≤ 2 ^ 32 :=
    pow_le_pow_right₀ (by decide) (Nat.succ_le_succ h.level_le)
  have hends : Int64.minValue.toInt = -2 ^ 63 ∧ Int64.maxValue.toInt = 2 ^ 63 - 1 := by decide
  rw [h.coordinate_eq, Except.ok.injEq, Prod.mk.injEq] at hcoordinate
  have hfloor := eq_toInt_of_ofIntClamp hcoordinate.1 (by omega) (by omega)
  have hfloor' := eq_toInt_of_ofIntClamp hcoordinate.2 (by omega) (by omega)
  rw [h.owns_cellBox_iff_floor, hfloor, hfloor']

/-- **The tree, the keys and the points share one grid.**  The box that the tree reaches along the
bits of a row and a column is the box of the key of that cell.  A point that has a row and a column
with keys of their own has a key exactly when the box of that key owns it. -/
theorem shares_cells (h : grid.Regular) :
    (∀ row column, row < 2 ^ grid.level → column < 2 ^ grid.level →
      (Extent.whole grid.level).follow (Quadrant.path grid.level row column)
          = ⟨row, row + 1, column, column + 1⟩
        ∧ grid.rangeTree.bounds.follow (Quadrant.path grid.level row column)
          = grid.cellBox (cellKey grid.level row column))
      ∧ ∀ longitude latitude row column,
        grid.coordinate longitude latitude = .ok (row, column) →
          0 ≤ row.toInt → row.toInt < 2 ^ (grid.level + 1) →
          0 ≤ column.toInt → column.toInt < 2 ^ (grid.level + 1) →
          ∀ key : Key, key.toNat < 4 ^ (grid.level + 1) →
            (grid.encode longitude latitude = .ok key
              ↔ (grid.cellBox key).Owns (grid.point longitude latitude)) := by
  constructor
  · intro row column hrow hcolumn
    have hfollow := Extent.follow_path_whole hrow hcolumn
    have hdouble : 2 ^ grid.level ≤ 2 ^ (grid.level + 1) :=
      Nat.pow_le_pow_right two_pos (Nat.le_succ _)
    refine ⟨hfollow, ?_⟩
    change grid.bounds.follow _ = _
    rw [follow_bounds grid (Quadrant.length_path ..).le, hfollow, h.cellBox_eq,
      keyCell_cellKey h.level_le (hrow.trans_le hdouble) (hcolumn.trans_le hdouble)]
  · intro longitude latitude row column hcoordinate hrow hrow' hcolumn hcolumn' key hkey
    have hneg : ¬ (row < 0 ∨ column < 0) := by
      rw [Int64.lt_iff_toInt_lt, Int64.lt_iff_toInt_lt, Int64.toInt_zero]
      omega
    have hbits : ∀ {n : Int}, 0 ≤ n → n < 2 ^ (grid.level + 1) → n.toNat < 2 ^ (grid.level + 1) :=
      fun hn hn' => (Int.toNat_lt hn).mpr (by exact_mod_cast hn')
    rw [h.owns_cellBox_iff hcoordinate hrow hrow' hcolumn hcolumn',
      encode_of_nonneg hcoordinate hneg, Except.ok.injEq, key_eq,
      cellKey_eq_iff h.level_le (hbits hrow hrow') (hbits hcolumn hcolumn') hkey, Prod.ext_iff]
    dsimp only
    omega

end Regular

/-- Four rows and four columns from a corner off the whole degrees, points in hundredths. -/
def offWhole : Grid Rat := ⟨⟨-3 / 2, 1 / 3⟩, ⟨1 / 2, 2 / 3⟩, 100, 2⟩

/-- The point at 1, 1 lies past the fourth row, on the south-western corner of its cell. -/
theorem shares_cells_offWhole : offWhole.Regular
    ∧ offWhole.rangeTree.bounds.follow (Quadrant.path 2 3 1) = offWhole.cellBox (cellKey 2 3 1)
    ∧ offWhole.coordinate 100 100 = .ok (5, 1)
    ∧ (offWhole.cellBox 35).Owns (offWhole.point 100 100)
    ∧ ¬ (offWhole.cellBox 33).Owns (offWhole.point 100 100) := by
  have hregular : offWhole.Regular := ⟨by decide +kernel, by decide +kernel, by decide, by decide⟩
  have hcoordinate : offWhole.coordinate 100 100 = .ok (5, 1) := by
    rw [hregular.coordinate_eq]
    exact congrArg Except.ok (by decide +kernel)
  have hencode := encode_of_nonneg hcoordinate (by decide)
  have hpoint := hregular.shares_cells.2 100 100 5 1 hcoordinate (by decide) (by decide) (by decide)
    (by decide)
  refine ⟨hregular, (hregular.shares_cells.1 3 1 (by decide) (by decide)).2, hcoordinate, ?_, ?_⟩
  · exact (hpoint 35 (by decide)).mp hencode
  · intro howns
    exact absurd (Except.ok.inj (hencode.symm.trans ((hpoint 33 (by decide)).mpr howns)))
      (by decide +kernel)

end Grid

end ZGrid
