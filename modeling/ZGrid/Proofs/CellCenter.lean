import ZGrid.Proofs.ExactGrid
import ZGrid.Proofs.RoundedFraction

/-!
# Proofs/CellCenter — the centre of a cell has the key of the cell

A centre is given in degrees, and rounded to whole units before it is encoded.  In units a cell is
`scaledDelta` wide, and rounding moves its centre by half a unit at most:

```
            ½ Δ            ½ Δ
   ├───────────────┼───────────────┤         1 < Δ
                ├──┼──┤
                 ½   ½
```

So the rounded centre stays off the sides of the cell (`between_of_near_midpoint`), wherever between
two units the origin of the grid lies.
-/

namespace ZGrid.Grid

variable {grid : Grid Rat}

/-- The point, in units, lies between the least and the greatest whole number of 64 bits. -/
structure Reaches (grid : Grid Rat) (point : Point Rat) : Prop where
  /-- The longitude is within 64 bits. -/
  x_mem : point.x * grid.ratio.toInt ∈ Set.Icc (Int64.minValue.toInt : Rat) Int64.maxValue.toInt
  /-- The latitude is within 64 bits. -/
  y_mem : point.y * grid.ratio.toInt ∈ Set.Icc (Int64.minValue.toInt : Rat) Int64.maxValue.toInt

/-! ## The rounded centre of a box -/

theorem midpoint_eq_half (low high : Rat) : Midpoint.midpoint low high = (low + high) / 2 := by
  change low + (high - low) / 2 = _
  ring

/-- A whole unit near the midpoint of two sides that are more than a unit apart lies between the
sides. -/
theorem between_of_near_midpoint {low high ratio : Rat} (hratio : 0 < ratio)
    (hwide : 1 < (high - low) * ratio) {n : Int}
    (hnear : |(n : Rat) - Midpoint.midpoint low high * ratio| ≤ 1 / 2) :
    low ≤ n / ratio ∧ n / ratio < high := by
  rw [midpoint_eq_half] at hnear
  obtain ⟨hdown, hup⟩ := abs_le.mp hnear
  rw [le_div_iff₀ hratio, div_lt_iff₀ hratio]
  constructor <;> linarith

/-- **A box more than a unit wide and high owns its rounded centre.** -/
theorem owns_round_center (hratio : (0 : Rat) < grid.ratio.toInt) {box : Box Rat}
    (hwide : 1 < (box.right - box.left) * grid.ratio.toInt)
    (hhigh : 1 < (box.top - box.bottom) * grid.ratio.toInt) (hreaches : grid.Reaches box.center) :
    box.Owns (grid.point (Degrees.round (box.center.x * grid.ratio.toInt))
      (Degrees.round (box.center.y * grid.ratio.toInt))) := by
  rw [point, toInt_round hreaches.x_mem, toInt_round hreaches.y_mem]
  exact ⟨between_of_near_midpoint hratio hwide (abs_roundFraction_sub_le _),
    between_of_near_midpoint hratio hhigh (abs_roundFraction_sub_le _)⟩

/-- The centre of a box is within 64 bits when two opposite corners are. -/
theorem Reaches.center {box : Box Rat} (hlow : grid.Reaches box.low)
    (hhigh : grid.Reaches box.high) : grid.Reaches box.center := by
  have hmidpoint : ∀ {low high ratio first last : Rat}, low * ratio ∈ Set.Icc first last →
      high * ratio ∈ Set.Icc first last →
        Midpoint.midpoint low high * ratio ∈ Set.Icc first last := by
    rintro low high ratio first last ⟨hfirst, hlast⟩ ⟨hfirst', hlast'⟩
    rw [midpoint_eq_half]
    constructor <;> linarith
  exact ⟨hmidpoint hlow.x_mem hhigh.x_mem, hmidpoint hlow.y_mem hhigh.y_mem⟩

/-! ## From a centre to its key -/

/-- A number of 32 bits is held as it is. -/
theorem toInt_ofIntClamp_natCast {n : Nat} (h : n < 2 ^ 32) : (Int64.ofIntClamp n).toInt = n := by
  have hends : Int64.minValue.toInt = -2 ^ 63 ∧ Int64.maxValue.toInt = 2 ^ 63 - 1 := by decide
  exact Int64.toInt_ofIntClamp (by omega) (by omega)

namespace Regular

/-- **A point that the box of a key owns has that key**, the keys of cells past the grid among
them. -/
theorem encode_of_owns (h : grid.Regular) {key : Key} (hkey : key.toNat < 4 ^ (grid.level + 1))
    {longitude latitude : Int64}
    (howns : (grid.cellBox key).Owns (grid.point longitude latitude)) :
    grid.encode longitude latitude = .ok key := by
  obtain ⟨hrow, hcolumn⟩ : (keyCell grid.level key).1 < 2 ^ (grid.level + 1)
      ∧ (keyCell grid.level key).2 < 2 ^ (grid.level + 1) := deinterleave_lt ..
  have hmost : 2 ^ (grid.level + 1) ≤ 2 ^ 32 :=
    Nat.pow_le_pow_right two_pos (Nat.succ_le_succ h.level_le)
  have hrow' := toInt_ofIntClamp_natCast (hrow.trans_le hmost)
  have hcolumn' := toInt_ofIntClamp_natCast (hcolumn.trans_le hmost)
  -- The floors are the row and the column of the key, so clamping leaves them alone.
  have hcoordinate := h.coordinate_eq longitude latitude
  obtain ⟨hx, hy⟩ := (h.owns_cellBox_iff_floor longitude latitude key).mp howns
  rw [hx, hy] at hcoordinate
  have hnonneg : ¬ (Int64.ofIntClamp (keyCell grid.level key).1 < 0
      ∨ Int64.ofIntClamp (keyCell grid.level key).2 < 0) := by
    rw [Int64.lt_iff_toInt_lt, Int64.lt_iff_toInt_lt, hrow', hcolumn', Int64.toInt_zero]
    omega
  rw [encode_of_nonneg hcoordinate hnonneg, key_eq, hrow', hcolumn', Int.toNat_natCast,
    Int.toNat_natCast, (cellKey_eq_iff h.level_le hrow hcolumn hkey).mpr rfl]

/-- The box of a key is as wide as a cell. -/
theorem width_cellBox (h : grid.Regular) (key : Key) :
    (grid.cellBox key).right - (grid.cellBox key).left = grid.delta.x
      ∧ (grid.cellBox key).top - (grid.cellBox key).bottom = grid.delta.y := by
  rw [h.cellBox_eq, extentBox]
  constructor <;> push_cast <;> ring

/-- **The centre of a cell is encoded as the key of the cell**, for cells more than a unit wide and
high, and an origin anywhere.  The centre has to lie within 64 bits, as it does when the cell does
(`Reaches.center`). -/
theorem encodeDegrees_center (h : grid.Regular) (hx : 1 < grid.scaledDelta.x)
    (hy : 1 < grid.scaledDelta.y) {key : Key} (hkey : key.toNat < 4 ^ (grid.level + 1))
    (hreaches : grid.Reaches (grid.cellBox key).center) :
    grid.encodeDegrees (grid.cellBox key).center.x (grid.cellBox key).center.y = .ok key := by
  obtain ⟨hwidth, hheight⟩ := h.width_cellBox key
  have howns := owns_round_center h.ratio_cast_pos (hwidth ▸ hx) (hheight ▸ hy) hreaches
  exact h.encode_of_owns hkey howns

end Regular

/-- Two rows and two columns of cells a little more than a unit wide and high, from a corner between
two units, points in hundredths. -/
def narrow : Grid Rat := ⟨⟨-7 / 1000, 1 / 300⟩, ⟨11 / 1000, 13 / 1000⟩, 100, 1⟩

/-- Row 2 and column 3 lie past the grid, and have key 13. -/
theorem encodeDegrees_center_narrow : narrow.Regular ∧ 1 < narrow.scaledDelta.x
    ∧ 1 < narrow.scaledDelta.y ∧ narrow.Reaches (narrow.cellBox 13).center
    ∧ (narrow.cellBox 13).center = ⟨41 / 2000, 293 / 6000⟩
    ∧ narrow.encodeDegrees (41 / 2000) (293 / 6000) = .ok 13 := by
  have hregular : narrow.Regular := ⟨by decide +kernel, by decide +kernel, by decide, by decide⟩
  have hreaches : narrow.Reaches (narrow.cellBox 13).center :=
    .center ⟨by decide +kernel, by decide +kernel⟩ ⟨by decide +kernel, by decide +kernel⟩
  have hcenter : (narrow.cellBox 13).center = ⟨41 / 2000, 293 / 6000⟩ := by decide +kernel
  have hkey := hregular.encodeDegrees_center (by decide +kernel) (by decide +kernel) (by decide)
    hreaches
  rw [hcenter] at hkey
  exact ⟨hregular, by decide +kernel, by decide +kernel, hreaches, hcenter, hkey⟩

/-- Cells one unit wide and high are too small: the centre of the first one is rounded to its far
corner, which is a point of the next cell. -/
example : (⟨⟨0, 0⟩, ⟨1, 1⟩, 1, 1⟩ : Grid Rat).encodeDegrees (1 / 2) (1 / 2) = .ok 3 := by cbv

end ZGrid.Grid
