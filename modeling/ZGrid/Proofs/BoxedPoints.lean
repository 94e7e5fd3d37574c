import ZGrid.Proofs.CellIndex
import ZGrid.Proofs.RoundedFunctions
import ZGrid.Proofs.WholeGrid

/-!
# Proofs/BoxedPoints — the points of a box lie between its corners

```
   ┌───────────┬─ ─ ─┐
   │         ◌ │           ●  the corners of the box
   ├───────●───┤     │     ◌  the corner of the grid
   │  box      │
   ●───────────┴─ ─ ─┘
```

Rows and columns are in the order of degrees, so those of a box are between those of its corners,
and all of its points are in the grid as soon as two of them are (`inside_of_corners`).  The grid is
the least square of cells that spans the box, so the north-eastern corner is in it as a rule
(`KeepsCorner.inside`).  It need not be when a power of two of cells ends where the box does: a box
of exactly `2 ^ level` cells is not padded, and its corner lies on the side of the grid.  Nor need
the south-western corner, when it is rounded to a point before it (`KeepsCorner.indexed`).
-/

namespace ZGrid

open Float64 KeyRange

/-! ## The box of a configuration -/

namespace Config

/-- A point lies in the box. -/
structure Holds (config : Config) (longitude latitude : Float) : Prop where
  /-- The longitude is a finite number. -/
  isFinite_longitude : isFinite longitude = true
  /-- The latitude is a finite number. -/
  isFinite_latitude : isFinite latitude = true
  /-- The point is not west of the box, -/
  west : config.minLongitude ≤ longitude
  /-- not east of it, -/
  east : longitude ≤ config.maxLongitude
  /-- not south of it, -/
  south : config.minLatitude ≤ latitude
  /-- and not north of it. -/
  north : latitude ≤ config.maxLatitude

variable {config : Config}

/-- Two opposite corners of the box lie in it. -/
theorem holds_corners (h : config.validate = .ok ()) :
    config.Holds config.minLongitude config.minLatitude
      ∧ config.Holds config.maxLongitude config.maxLatitude := by
  obtain ⟨⟨hwest, heast, hwidth⟩, hsouth, hnorth, hheight⟩ := sides_of_validate h
  have hlongitude := (le_iff_exact_le hwest heast).mpr hwidth.le
  have hlatitude := (le_iff_exact_le hsouth hnorth).mpr hheight.le
  have hself : ∀ {x : Float}, isFinite x = true → x ≤ x := fun hx =>
    (le_iff_exact_le hx hx).mpr le_rfl
  exact ⟨⟨hwest, hsouth, hself hwest, hlongitude, hself hsouth, hlatitude⟩,
    heast, hnorth, hlongitude, hself heast, hlatitude, hself hnorth⟩

end Config

namespace Grid

variable {grid : Grid Float} {longitude latitude longitude' latitude' : Float}

/-! ## Cells of degrees -/

/-- What the checks on a configuration leave of its grid. -/
structure Sound (grid : Grid Float) : Prop where
  /-- The ratio is positive. -/
  ratio_pos : 0 < grid.ratio
  /-- The longitude of the south-western corner is a number. -/
  isFinite_west : isFinite grid.origin.x = true
  /-- So is the latitude. -/
  isFinite_south : isFinite grid.origin.y = true
  /-- A cell has a width, -/
  width : ¬ grid.delta.x ≤ 0 ∧ isFinite grid.delta.x = true
  /-- and a height. -/
  height : ¬ grid.delta.y ≤ 0 ∧ isFinite grid.delta.y = true

/-- Along a good axis the extent of a cell is a number other than zero. -/
theorem scaledDelta_of_badAxis? (h : grid.badAxis? = none) :
    (isFinite grid.scaledDelta.x = true ∧ ¬ (grid.scaledDelta.x == 0) = true)
      ∧ isFinite grid.scaledDelta.y = true ∧ ¬ (grid.scaledDelta.y == 0) = true := by
  rw [badAxis?] at h
  split_ifs at h with hx hy
  simp only [Bool.or_eq_true, Bool.not_eq_true', not_or, Bool.not_eq_false] at hx hy
  exact ⟨hx.symm, hy.symm⟩

/-- The row and the column of the point at some degrees. -/
def cellAt (grid : Grid Float) (longitude latitude : Float) :
    Except (GridFault Float) (Int64 × Int64) := do
  let (longitude, latitude) ← grid.fixedPoint longitude latitude
  grid.coordinate longitude latitude

theorem cellAt_eq (hbad : grid.badAxis? = none) (hlongitude : isFinite longitude = true)
    (hlatitude : isFinite latitude = true) : grid.cellAt longitude latitude
      = .ok (cellIndex grid.ratio grid.origin.x grid.delta.x longitude,
        cellIndex grid.ratio grid.origin.y grid.delta.y latitude) := by
  have hfinite : (isFinite longitude && isFinite latitude) = true := by
    rw [hlongitude, hlatitude]
    rfl
  rw [cellAt, fixedPoint]
  change (if (isFinite longitude && isFinite latitude) = true then _ else _) >>= _ = _
  rw [if_pos hfinite]
  change grid.coordinate _ _ = _
  rw [coordinate, hbad]
  rfl

theorem badAxis?_of_cellAt {cell : Int64 × Int64}
    (h : grid.cellAt longitude latitude = .ok cell) : grid.badAxis? = none := by
  rw [cellAt] at h
  cases hpoint : grid.fixedPoint longitude latitude with
  | error fault =>
    rw [hpoint] at h
    cases h
  | ok point =>
    rw [hpoint] at h
    change grid.coordinate point.1 point.2 = _ at h
    rw [coordinate] at h
    split at h
    · cases h
    · assumption

/-- **Cells are in the order of degrees along both axes.** -/
theorem cellAt_mono {row column : Int64} (hsound : grid.Sound)
    (hlongitude : isFinite longitude = true ∧ isFinite longitude' = true)
    (hlatitude : isFinite latitude = true ∧ isFinite latitude' = true)
    (hle : longitude ≤ longitude') (hle' : latitude ≤ latitude')
    (h : grid.cellAt longitude latitude = .ok (row, column)) :
    ∃ row' column', grid.cellAt longitude' latitude' = .ok (row', column')
      ∧ row.toInt ≤ row'.toInt ∧ column.toInt ≤ column'.toInt := by
  have hbad := badAxis?_of_cellAt h
  obtain ⟨hx, hy⟩ := scaledDelta_of_badAxis? hbad
  rw [cellAt_eq hbad hlongitude.1 hlatitude.1] at h
  cases h
  exact ⟨_, _, cellAt_eq hbad hlongitude.2 hlatitude.2,
    cellIndex_mono hsound.ratio_pos hsound.width hx hsound.isFinite_west hlongitude.1 hlongitude.2
      hle,
    cellIndex_mono hsound.ratio_pos hsound.height hy hsound.isFinite_south hlatitude.1 hlatitude.2
      hle'⟩

/-! ## Keys of degrees -/

/-- The point at some degrees lies in a cell of the grid. -/
def Inside (grid : Grid Float) (longitude latitude : Float) : Prop :=
  ∃ row column, grid.cellAt longitude latitude = .ok (row, column)
    ∧ (0 ≤ row.toInt ∧ row.toInt < 2 ^ grid.level)
    ∧ (0 ≤ column.toInt ∧ column.toInt < 2 ^ grid.level)

/-- The point at some degrees has a key. -/
def Indexed (grid : Grid Float) (longitude latitude : Float) : Prop :=
  ∃ key, (grid.encodeAt longitude latitude).result = .ok key

/-- The log warns of the point at some degrees. -/
def WarnsAt (grid : Grid Float) (longitude latitude : Float) : Prop :=
  ∃ x y row column,
    .pointAliased x y row column grid.limit ∈ (grid.encodeAt longitude latitude).events

section Fixed

variable {x y : Int64} (h : grid.fixedPoint longitude latitude = .ok (x, y))
include h

theorem result_encodeAt : (grid.encodeAt longitude latitude).result
    = (grid.encodePoint x y).result := by
  have hlift : (lift (.ok (x, y)) : Attempt (Int64 × Int64)).result = .ok (x, y) :=
    Attempt.result_ofExcept _
  rw [encodeAt, h, Attempt.result_bind_of_ok hlift]

theorem events_encodeAt : (grid.encodeAt longitude latitude).events
    = (grid.encodePoint x y).events := by
  have hlift : (lift (.ok (x, y)) : Attempt (Int64 × Int64)).result = .ok (x, y) :=
    Attempt.result_ofExcept _
  rw [encodeAt, h, Attempt.events_bind_of_ok hlift, lift, Attempt.events_ofExcept, List.nil_append]

theorem cellAt_of_fixedPoint : grid.cellAt longitude latitude = grid.coordinate x y := by
  rw [cellAt, h]
  rfl

end Fixed

/-- A point with a cell is a point with whole numbers. -/
theorem exists_fixedPoint_of_cellAt {cell : Int64 × Int64}
    (h : grid.cellAt longitude latitude = .ok cell) :
    ∃ x y, grid.fixedPoint longitude latitude = .ok (x, y) ∧ grid.coordinate x y = .ok cell := by
  rw [cellAt] at h
  cases hpoint : grid.fixedPoint longitude latitude with
  | error fault =>
    rw [hpoint] at h
    cases h
  | ok point =>
    rw [hpoint] at h
    exact ⟨point.1, point.2, rfl, h⟩

/-- A point with a key is a point with a cell. -/
theorem exists_cellAt_of_indexed (h : grid.Indexed longitude latitude) :
    ∃ row column, grid.cellAt longitude latitude = .ok (row, column) ∧ 0 ≤ row.toInt
      ∧ 0 ≤ column.toInt := by
  obtain ⟨key, hkey⟩ := h
  cases hpoint : grid.fixedPoint longitude latitude with
  | error fault =>
    rw [encodeAt, hpoint, Attempt.result_bind_of_error rfl] at hkey
    cases hkey
  | ok point =>
    obtain ⟨x, y⟩ := point
    rw [result_encodeAt hpoint] at hkey
    cases hcell : grid.coordinate x y with
    | error fault =>
      have hlocate : (lift (grid.locate x y)).result = .error fault.toError := by
        rw [locate, hcell]
        rfl
      rw [encodePoint, Attempt.result_bind_of_error hlocate] at hkey
      cases hkey
    | ok cell =>
      obtain ⟨row, column⟩ := cell
      have hnonneg := HasKey.nonneg ⟨hcell, hkey⟩
      rw [Int64.lt_iff_toInt_lt, Int64.lt_iff_toInt_lt, Int64.toInt_zero, not_or, not_lt,
        not_lt] at hnonneg
      exact ⟨row, column, (cellAt_of_fixedPoint hpoint).trans hcell, hnonneg⟩

/-- A point from the first row and the first column on has the key of its cell. -/
theorem exists_hasKey {row column : Int64}
    (h : grid.cellAt longitude latitude = .ok (row, column)) (hrow : 0 ≤ row.toInt)
    (hcolumn : 0 ≤ column.toInt) :
    ∃ x y key, grid.fixedPoint longitude latitude = .ok (x, y)
      ∧ grid.HasKey x y row column key := by
  obtain ⟨x, y, hpoint, hcell⟩ := exists_fixedPoint_of_cellAt h
  have hnonneg : ¬ (row < 0 ∨ column < 0) := by
    rw [Int64.lt_iff_toInt_lt, Int64.lt_iff_toInt_lt, Int64.toInt_zero]
    omega
  exact ⟨x, y, _, hpoint, hcell, (encodePoint_of_nonneg hcell hnonneg).1⟩

theorem indexed_iff : grid.Indexed longitude latitude
    ↔ ∃ row column, grid.cellAt longitude latitude = .ok (row, column) ∧ 0 ≤ row.toInt
      ∧ 0 ≤ column.toInt := by
  refine ⟨exists_cellAt_of_indexed, fun ⟨row, column, hcell, hrow, hcolumn⟩ => ?_⟩
  obtain ⟨x, y, key, hpoint, hkey⟩ := exists_hasKey hcell hrow hcolumn
  exact ⟨key, (result_encodeAt hpoint).trans hkey.result⟩

theorem Inside.indexed (h : grid.Inside longitude latitude) : grid.Indexed longitude latitude := by
  obtain ⟨row, column, hcell, hrow, hcolumn⟩ := h
  exact indexed_iff.mpr ⟨row, column, hcell, hrow.1, hcolumn.1⟩

section Level

variable {key : Key} (hlevel : grid.level ≤ 31)
include hlevel

/-- **A point of the grid has a key of the grid**, and there is nothing to warn of. -/
theorem Inside.lt (h : grid.Inside longitude latitude)
    (hkey : (grid.encodeAt longitude latitude).result = .ok key) :
    key.toNat < 4 ^ grid.level ∧ ¬ grid.WarnsAt longitude latitude := by
  obtain ⟨row, column, hcell, hrow, hcolumn⟩ := h
  obtain ⟨x, y, key', hpoint, hhas⟩ := exists_hasKey hcell hrow.1 hcolumn.1
  rw [result_encodeAt hpoint, hhas.result] at hkey
  cases hkey
  have hwithin : ¬ (2 ^ (grid.level + 1) ≤ row.toInt ∨ 2 ^ (grid.level + 1) ≤ column.toInt) := by
    rw [pow_succ]
    omega
  refine ⟨(hhas.lt_iff hlevel (mt (hhas.warns_iff hlevel).mp hwithin)).mpr ⟨hrow.2, hcolumn.2⟩, ?_⟩
  rintro ⟨x', y', row', column', hevent⟩
  rw [events_encodeAt hpoint, (encodePoint_of_nonneg hhas.coordinate hhas.nonneg).2,
    if_neg (mt (isAliased_iff hlevel).mp hwithin)] at hevent
  cases hevent

/-- A point past the grid has none, or there is a warning. -/
theorem ge_or_warnsAt_of_not_inside (h : ¬ grid.Inside longitude latitude)
    (hkey : (grid.encodeAt longitude latitude).result = .ok key) :
    4 ^ grid.level ≤ key.toNat ∨ grid.WarnsAt longitude latitude := by
  obtain ⟨row, column, hcell, hrow, hcolumn⟩ := exists_cellAt_of_indexed ⟨key, hkey⟩
  obtain ⟨x, y, key', hpoint, hhas⟩ := exists_hasKey hcell hrow hcolumn
  rw [result_encodeAt hpoint, hhas.result] at hkey
  cases hkey
  refine or_iff_not_imp_left.mpr fun hlt => ?_
  have hpast : 2 ^ grid.level ≤ row.toInt ∨ 2 ^ grid.level ≤ column.toInt := by
    by_contra hnone
    exact h ⟨row, column, hcell, ⟨hrow, by omega⟩, hcolumn, by omega⟩
  obtain ⟨row', column', hevent⟩ := hhas.warns_of_past hlevel hpast (not_le.mp hlt)
  exact ⟨x, y, row', column', events_encodeAt hpoint ▸ hevent⟩

end Level

/-! ## The points of a box -/

variable {elementary : Elementary} {config : Config} {grid : Grid Float}

theorem origin_of_derive (h : derive elementary config = .ok grid) :
    grid.origin = ⟨config.minLongitude, config.minLatitude⟩ := by
  rw [derive, (checks_of_derive h).1] at h
  dsimp only [bind, Except.bind] at h
  split at h
  · cases h
  · split at h
    · cases h
    · cases h
      rfl

theorem sound_of_derive (h : derive elementary config = .ok grid) : grid.Sound := by
  obtain ⟨hvalidate, hratio, hwidth, hheight, -⟩ := checks_of_derive h
  obtain ⟨hwest, hsouth, -⟩ := (Config.holds_corners hvalidate).1
  have horigin := origin_of_derive h
  have hpositive := (Config.checked_of_validate hvalidate).conversionRatio_pos
  refine ⟨hratio ▸ hpositive, ?_, ?_, hwidth, hheight⟩
  · rwa [horigin]
  · rwa [horigin]

/-- Rounding does not take the south-western corner out of the grid. -/
structure KeepsCorner (grid : Grid Float) : Prop where
  /-- Cells can be counted along both axes. -/
  goodAxes : grid.badAxis? = none
  /-- The corner has a finite longitude in the units of points, -/
  isFinite_x : isFinite grid.scaledOrigin.x = true
  /-- and a finite latitude. -/
  isFinite_y : isFinite grid.scaledOrigin.y = true
  /-- The longitude is not rounded down, -/
  le_round_x : grid.scaledOrigin.x ≤ Float.ofInt (Float64.round grid.scaledOrigin.x).toInt
  /-- nor is the latitude. -/
  le_round_y : grid.scaledOrigin.y ≤ Float.ofInt (Float64.round grid.scaledOrigin.y).toInt

/-- **A corner that is not rounded down has a key.** -/
theorem KeepsCorner.indexed (h : grid.KeepsCorner) (hsound : grid.Sound) :
    grid.Indexed grid.origin.x grid.origin.y := by
  obtain ⟨hx, hy⟩ := scaledDelta_of_badAxis? h.goodAxes
  refine indexed_iff.mpr
    ⟨_, _, cellAt_eq h.goodAxes hsound.isFinite_west hsound.isFinite_south, ?_, ?_⟩
  · exact cellIndex_nonneg hsound.ratio_pos hsound.width hx h.isFinite_x h.le_round_x
  · exact cellIndex_nonneg hsound.ratio_pos hsound.height hy h.isFinite_y h.le_round_y

/-- With its south-western corner every point of the box has a cell from the first row and the
first column on. -/
theorem exists_cellAt_of_holds (hsound : grid.Sound)
    (hlow : config.Holds config.minLongitude config.minLatitude)
    (hcorner : grid.Indexed config.minLongitude config.minLatitude) {longitude latitude : Float}
    (hpoint : config.Holds longitude latitude) :
    ∃ row column, grid.cellAt longitude latitude = .ok (row, column) ∧ 0 ≤ row.toInt
      ∧ 0 ≤ column.toInt := by
  obtain ⟨row, column, hcell, hrow, hcolumn⟩ := indexed_iff.mp hcorner
  obtain ⟨row', column', hcell', hle, hle'⟩ := cellAt_mono hsound
    ⟨hlow.isFinite_longitude, hpoint.isFinite_longitude⟩
    ⟨hlow.isFinite_latitude, hpoint.isFinite_latitude⟩ hpoint.west hpoint.south hcell
  exact ⟨row', column', hcell', hrow.trans hle, hcolumn.trans hle'⟩

/-! ## The far sides of a box -/

/-- No power of two of cells that spans the box ends where the box does: the point of the
north-eastern corner lies before the end along both axes. -/
def Clear (grid : Grid Float) (config : Config) : Prop :=
  ∀ k : Nat, (1 + tolerance) * 2 ^ k < longSide config grid.delta
    ∨ (farthest grid.ratio config.minLongitude config.maxLongitude
        < 2 ^ k * inPoints grid.ratio grid.delta.x
      ∧ farthest grid.ratio config.minLatitude config.maxLatitude
        < 2 ^ k * inPoints grid.ratio grid.delta.y)

/-- It is enough to know the two powers of two around the longer side. -/
theorem clear_of_between {n : Nat}
    (hnonneg : 0 ≤ inPoints grid.ratio grid.delta.x ∧ 0 ≤ inPoints grid.ratio grid.delta.y)
    (hbefore : n = 0 ∨ (1 + tolerance) * 2 ^ (n - 1) < longSide config grid.delta)
    (heast : farthest grid.ratio config.minLongitude config.maxLongitude
      < 2 ^ n * inPoints grid.ratio grid.delta.x)
    (hnorth : farthest grid.ratio config.minLatitude config.maxLatitude
      < 2 ^ n * inPoints grid.ratio grid.delta.y) : grid.Clear config := by
  intro k
  obtain hk | hk := lt_or_ge k n
  · have htolerance : (0 : Rat) ≤ 1 + tolerance := by
      rw [tolerance]
      norm_num
    have hpower : (2 : Rat) ^ k ≤ 2 ^ (n - 1) := pow_le_pow_right₀ one_le_two (by omega)
    refine .inl ((mul_le_mul_of_nonneg_left hpower htolerance).trans_lt ?_)
    exact hbefore.resolve_left (by omega)
  · have hpower : (2 : Rat) ^ n ≤ 2 ^ k := pow_le_pow_right₀ one_le_two hk
    exact .inr ⟨heast.trans_le (mul_le_mul_of_nonneg_right hpower hnonneg.1),
      hnorth.trans_le (mul_le_mul_of_nonneg_right hpower hnonneg.2)⟩

/-- **The north-eastern corner of a padded box lies in the grid.** -/
theorem KeepsCorner.inside (h : grid.KeepsCorner) (hderive : derive elementary config = .ok grid)
    (hleast : grid.LeastFor config) (hclear : grid.Clear config) :
    grid.Inside config.maxLongitude config.maxLatitude := by
  have hsound := sound_of_derive hderive
  have horigin := origin_of_derive hderive
  have hlevel : grid.level ≤ 31 := (level_le_of_derive hderive).trans (by decide)
  obtain ⟨hlow, hhigh⟩ := Config.holds_corners (checks_of_derive hderive).1
  obtain ⟨hx, hy⟩ := scaledDelta_of_badAxis? h.goodAxes
  have hcorner := h.indexed hsound
  have hscaledX := h.isFinite_x
  have hscaledY := h.isFinite_y
  rw [scaledOrigin] at hscaledX hscaledY
  rw [horigin] at hcorner hscaledX hscaledY
  obtain ⟨row, column, hcell, hrow, hcolumn⟩ := exists_cellAt_of_holds hsound hlow hcorner hhigh
  have hsame := cellAt_eq h.goodAxes hhigh.isFinite_longitude hhigh.isFinite_latitude
  rw [horigin] at hsame
  cases hcell.symm.trans hsame
  obtain ⟨heast, hnorth⟩ :=
    (hclear grid.level).resolve_left (max_le hleast.width_le hleast.height_le).not_gt
  exact ⟨_, _, hcell,
    ⟨hrow, cellIndex_lt hsound.ratio_pos hsound.width hx hlow.isFinite_longitude hscaledX hlevel
      heast⟩,
    hcolumn, cellIndex_lt hsound.ratio_pos hsound.height hy hlow.isFinite_latitude hscaledY hlevel
      hnorth⟩

/-- With its two corners every point of the box lies in the grid. -/
theorem inside_of_holds (hderive : derive elementary config = .ok grid)
    (hcorner : grid.Indexed config.minLongitude config.minLatitude)
    (hinside : grid.Inside config.maxLongitude config.maxLatitude)
    (hpoint : config.Holds longitude latitude) : grid.Inside longitude latitude := by
  have hsound := sound_of_derive hderive
  obtain ⟨hlow, hhigh⟩ := Config.holds_corners (checks_of_derive hderive).1
  obtain ⟨row, column, hcell, hrow, hcolumn⟩ := exists_cellAt_of_holds hsound hlow hcorner hpoint
  obtain ⟨row', column', hcell', hrow', hcolumn'⟩ := hinside
  obtain ⟨_, _, hsame, hle, hle'⟩ := cellAt_mono hsound
    ⟨hpoint.isFinite_longitude, hhigh.isFinite_longitude⟩
    ⟨hpoint.isFinite_latitude, hhigh.isFinite_latitude⟩ hpoint.east hpoint.north hcell
  cases hcell'.symm.trans hsame
  exact ⟨row, column, hcell, ⟨hrow, hle.trans_lt hrow'.2⟩, hcolumn, hle'.trans_lt hcolumn'.2⟩

/-- **The points of a box are in the grid when its corners are.**  All of them have keys when the
south-western corner has one, as it does unless it is rounded down.  The grid is the least square of
cells that spans the box, and the north-eastern corner lies in it unless a power of two of cells
ends there.  A point of the grid has a key that every query over the whole grid selects; a key past
the grid is none of its keys, or there is a warning. -/
theorem inside_of_corners (h : derive elementary config = .ok grid) :
    ((∀ longitude latitude, config.Holds longitude latitude → grid.Indexed longitude latitude)
      ↔ grid.Indexed config.minLongitude config.minLatitude)
    ∧ (grid.KeepsCorner → grid.Indexed config.minLongitude config.minLatitude)
    ∧ ((∀ longitude latitude, config.Holds longitude latitude → grid.Inside longitude latitude)
      ↔ grid.Indexed config.minLongitude config.minLatitude
        ∧ grid.Inside config.maxLongitude config.maxLatitude)
    ∧ (elementary.Accurate → grid.LeastFor config
      ∧ (grid.KeepsCorner → grid.Clear config →
        ∀ longitude latitude, config.Holds longitude latitude → grid.Inside longitude latitude))
    ∧ ∀ longitude latitude key, (grid.encodeAt longitude latitude).result = .ok key →
      (grid.Inside longitude latitude → key.toNat < 4 ^ grid.level
        ∧ ¬ grid.WarnsAt longitude latitude
        ∧ ∀ index : GridIndex, index.grid = grid → ∀ vertices, index.AsksForAll vertices →
          ∃ ranges, (index.queryPolygon vertices).result = .ok ranges ∧ Covers ranges key)
      ∧ (¬ grid.Inside longitude latitude →
        4 ^ grid.level ≤ key.toNat ∨ grid.WarnsAt longitude latitude) := by
  have hsound := sound_of_derive h
  have hlevel : grid.level ≤ 31 := (level_le_of_derive h).trans (by decide)
  obtain ⟨hlow, hhigh⟩ := Config.holds_corners (checks_of_derive h).1
  have hkept : grid.KeepsCorner → grid.Indexed config.minLongitude config.minLatitude := by
    intro hkeeps
    have hcorner := hkeeps.indexed hsound
    rwa [origin_of_derive h] at hcorner
  refine ⟨⟨fun hall => hall _ _ hlow, fun hcorner longitude latitude hpoint =>
      indexed_iff.mpr (exists_cellAt_of_holds hsound hlow hcorner hpoint)⟩,
    hkept,
    ⟨fun hall => ⟨(hall _ _ hlow).indexed, hall _ _ hhigh⟩,
      fun ⟨hcorner, hinside⟩ _ _ hpoint => inside_of_holds h hcorner hinside hpoint⟩,
    fun haccurate => ?_,
    fun longitude latitude key hkey => ⟨fun hinside => ?_, fun hinside =>
      ge_or_warnsAt_of_not_inside hlevel hinside hkey⟩⟩
  · have hleast := leastFor_of_derive haccurate h
    exact ⟨hleast, fun hkeeps hclear _ _ hpoint =>
      inside_of_holds h (hkept hkeeps) (hkeeps.inside h hleast hclear) hpoint⟩
  · obtain ⟨hlt, hsilent⟩ := hinside.lt hlevel hkey
    refine ⟨hlt, hsilent, ?_⟩
    rintro index rfl vertices hasks
    obtain ⟨ranges, hresult, hcovers⟩ := hasks.exists_ranges hlevel
    exact ⟨ranges, hresult, (hcovers key).mpr hlt⟩

/-- A box in cells of one degree. -/
def degreeBox (west south east north : Float) (ratio : Int64) : Config where
  originLatitude := 0
  minLongitude := west
  maxLongitude := east
  minLatitude := south
  maxLatitude := north
  gridSize := 111194.9964577288
  conversionRatio := ratio

/-- Four cells along both axes, with the south-western corner of the box. -/
def paddedGrid : Grid Float := ⟨⟨-1.5, 0.5⟩, ⟨1, 1⟩, 10, 2⟩

/-- The corners of the padded box. -/
def paddedCorners : List (Point Float) := [⟨-1.5, 0.5⟩, ⟨2.5, 0.5⟩, ⟨2.5, 4.5⟩, ⟨-1.5, 4.5⟩]

set_option maxRecDepth 100000 in
private theorem asksForAll_paddedCorners (name : String) (config : Config) :
    GridIndex.AsksForAll ⟨name, config, paddedGrid⟩ paddedCorners := by
  have hpolygon : GridIndex.polygon paddedCorners = .ok (.ofRings paddedCorners []) := by
    with_unfolding_all rfl
  have hfits : ((Region.ofPolygon (.ofRings paddedCorners [])).toOption.any fun region =>
      decide (region.Fits paddedGrid.bounds
        ∧ region.touches paddedGrid.bounds.center = true)) = true := by
    decide +kernel
  have hcovers : (Shape.ofPolygon (.ofRings paddedCorners [])).covers paddedGrid.bounds = true := by
    rw [Shape.covers_ofPolygon]
    unfold Drawing.covers Drawing.sightMarks Drawing.sightAround Drawing.arms
    simp only [Arm.gather_eq]
    decide +kernel
  cases hregion : Region.ofPolygon (.ofRings paddedCorners []) with
  | error =>
    rw [hregion] at hfits
    cases hfits
  | ok region =>
    rw [hregion] at hfits
    obtain ⟨hfits, htouches⟩ := of_decide_eq_true hfits
    refine ⟨_, region, hpolygon, hregion, hfits, ?_, htouches⟩
    rwa [Region.toShape_of_ofPolygon hregion]

/-- A cell of these boxes is one degree wide and one high. -/
theorem cellDegrees_degreeBox : cellDegrees .rounded 111194.9964577288 0 = ⟨1, 1⟩ := by
  have hradians : radians 0 = 0 := by with_unfolding_all rfl
  rw [cellDegrees, hradians, Elementary.rounded_cos_zero]
  with_unfolding_all rfl

/-- The box is padded for the longer one of its sides, and does not reach the end of the grid. -/
theorem derive_paddedBox : derive .rounded (degreeBox (-1.5) 0.5 2 2 10) = .ok paddedGrid
    ∧ paddedGrid.KeepsCorner ∧ paddedGrid.Clear (degreeBox (-1.5) 0.5 2 2 10) := by
  refine ⟨?_, ?_, ?_⟩
  · exact derive_eq_of_cells (n := 2) Elementary.accurate_rounded (by with_unfolding_all rfl)
      cellDegrees_degreeBox (by decide +kernel) (by decide +kernel) (by decide +kernel) (by decide)
      (by decide +kernel) (.inr (by decide +kernel))
  · exact ⟨by with_unfolding_all rfl, by decide +kernel, by decide +kernel, by decide +kernel,
      by decide +kernel⟩
  · exact clear_of_between (n := 2) (by decide +kernel) (.inr (by decide +kernel))
      (by decide +kernel) (by decide +kernel)

set_option maxRecDepth 100000 in
/-- All points of a box of three cells and a half by one and a half have keys of the grid, the last
one at its north-eastern corner. -/
theorem inside_of_corners_paddedGrid :
    Elementary.rounded.Accurate
      ∧ derive .rounded (degreeBox (-1.5) 0.5 2 2 10) = .ok paddedGrid
      ∧ paddedGrid.LeastFor (degreeBox (-1.5) 0.5 2 2 10)
      ∧ (∀ longitude latitude, (degreeBox (-1.5) 0.5 2 2 10).Holds longitude latitude →
        paddedGrid.Inside longitude latitude)
      ∧ (paddedGrid.encodeAt 2 2).result = .ok 11 ∧ (11 : Key).toNat < 4 ^ paddedGrid.level
      ∧ ∃ ranges, (GridIndex.queryPolygon ⟨"cell", degreeBox (-1.5) 0.5 2 2 10, paddedGrid⟩
        paddedCorners).result = .ok ranges ∧ Covers ranges 11 := by
  obtain ⟨hderive, hkeeps, hclear⟩ := derive_paddedBox
  have hkey : (paddedGrid.encodeAt 2 2).result = .ok 11 := by with_unfolding_all rfl
  obtain ⟨-, -, -, hpadded, hkeys⟩ := inside_of_corners hderive
  obtain ⟨hleast, hinside⟩ := hpadded Elementary.accurate_rounded
  have hall := hinside hkeeps hclear
  have hcorners := Config.holds_corners (checks_of_derive hderive).1
  obtain ⟨hlt, -, hquery⟩ := (hkeys 2 2 11 hkey).1 (hall 2 2 hcorners.2)
  exact ⟨Elementary.accurate_rounded, hderive, hleast, hall, hkey, hlt,
    hquery ⟨"cell", degreeBox (-1.5) 0.5 2 2 10, paddedGrid⟩ rfl paddedCorners
      (asksForAll_paddedCorners _ _)⟩

/-- A box of one cell has the grid of that cell. -/
theorem derive_oneCell {west south east north : Float}
    (hvalidate : (degreeBox west south east north 1).validate = .ok ())
    (hcells : (east - west) / 1 = 1 ∧ (north - south) / 1 = 1) :
    derive .rounded (degreeBox west south east north 1)
      = .ok ⟨⟨west, south⟩, ⟨1, 1⟩, 1, 0⟩ := by
  have hlog : IsAt (Elementary.rounded.log2 1) 0 := by
    rw [Elementary.rounded_log2_one]
    exact isAt_zero
  have hlevels : IsAt (levels .rounded ((east - west) / 1) ((north - south) / 1)) (0 : Int) := by
    rw [hcells.1, hcells.2]
    have hdepth := isAt_levels hlog hlog
    rwa [max_self, Int.ceil_zero] at hdepth
  have hone : ¬ (1 : Float) ≤ 0 ∧ isFinite 1 = true := by with_unfolding_all decide
  exact derive_eq_ok hvalidate cellDegrees_degreeBox hone hone hlevels (by decide)

set_option maxRecDepth 100000 in
/-- A box of one cell is not padded: its north-eastern corner lies past the cell and has a key that
is none of the grid.  A south-western corner that is rounded down has no key at all. -/
theorem corners_past_oneCell :
    (∃ grid, derive .rounded (degreeBox 0 0 1 1 1) = .ok grid
      ∧ (degreeBox 0 0 1 1 1).Holds 1 1
      ∧ ∃ key, (grid.encodeAt 1 1).result = .ok key ∧ ¬ key.toNat < 4 ^ grid.level)
    ∧ ∃ grid, derive .rounded (degreeBox (-0.5) (-0.5) 0.5 0.5 1) = .ok grid
      ∧ (degreeBox (-0.5) (-0.5) 0.5 0.5 1).Holds (-0.5) (-0.5)
      ∧ (grid.encodeAt (-0.5) (-0.5)).result = .error (.outOfDomain (-1) (-1)) := by
  have hderive : derive .rounded (degreeBox 0 0 1 1 1) = .ok ⟨⟨0, 0⟩, ⟨1, 1⟩, 1, 0⟩ :=
    derive_oneCell (by with_unfolding_all rfl)
      ⟨by with_unfolding_all rfl, by with_unfolding_all rfl⟩
  have hderive' : derive .rounded (degreeBox (-0.5) (-0.5) 0.5 0.5 1)
      = .ok ⟨⟨-0.5, -0.5⟩, ⟨1, 1⟩, 1, 0⟩ :=
    derive_oneCell (by with_unfolding_all rfl)
      ⟨by with_unfolding_all rfl, by with_unfolding_all rfl⟩
  have hcorners := Config.holds_corners (checks_of_derive hderive).1
  have hcorners' := Config.holds_corners (checks_of_derive hderive').1
  exact ⟨⟨_, hderive, hcorners.2, 3, by with_unfolding_all rfl, by decide⟩,
    _, hderive', hcorners'.1, by with_unfolding_all rfl⟩

end Grid

end ZGrid
