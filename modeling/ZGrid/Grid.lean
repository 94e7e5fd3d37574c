import ZGrid.Error
import ZGrid.Extent
import ZGrid.Plane.Box

/-!
# Grid — points, cells and keys

A grid is laid over the plane from its south-western corner.  Rows advance with the longitude and
columns with the latitude, a cell at a time:

```
   origin.y + 2 Δy  ┬────────┬────────┐
                    │  0, 1  │  1, 1  │
   origin.y +   Δy  ┼────────┼────────┤      row, column
                    │  0, 0  │  1, 0  │
   origin.y         ┴────────┴────────┘
              origin.x              origin.x + 2 Δx
```

A point comes as two whole numbers, degrees times a fixed ratio.  Its row and column are the whole
parts of its distances from the origin in cells.  Points west or south of the origin have no key.
Keys read one bit more than the grid has rows, so a point past twice the grid has the key of
another cell: it is **aliased**.

The numbers are those of any type with the operations of `Degrees`: floats when the program runs,
exact fractions when the geometry is reasoned about.
-/

namespace ZGrid

/-- Numbers that a grid can be laid out with. -/
class Degrees (α : Type) extends Add α, Sub α, Mul α, Div α where
  /-- A whole number. -/
  ofInt : Int → α
  /-- The whole number below, held within 64 bits. -/
  floor : α → Int64
  /-- The nearest whole number, halves away from zero, held within 64 bits. -/
  round : α → Int64
  /-- A number, and not past the largest one. -/
  isFinite : α → Bool
  /-- Nothing can be divided by it. -/
  isZero : α → Bool

instance : Degrees Float where
  ofInt := Float.ofInt
  floor := Float64.floor
  round := Float64.round
  isFinite := Float64.isFinite
  isZero x := x == 0

/-- A grid of cells. -/
structure Grid (α : Type) where
  /-- The south-western corner. -/
  origin : Point α
  /-- The extent of a cell in degrees. -/
  delta : Point α
  /-- The factor from degrees to the whole numbers that points come as. -/
  ratio : Int64
  /-- The number of halvings from the grid to a cell. -/
  level : Nat

/-- Why a point has no key. -/
inductive GridFault (α : Type) where
  /-- The degrees are no finite numbers. -/
  | notFinite (longitude latitude : α)
  /-- A cell has no extent along an axis, or an endless one. -/
  | delta (axis : Axis) (found : α)
  /-- The point lies before the first row or the first column. -/
  | outOfDomain (row column : Int64)

namespace Grid

variable {α : Type} [Degrees α]

/-! ## Measures -/

/-- The number of rows, and of columns. -/
def dimension (grid : Grid α) : Nat := Nat.pow 2 grid.level

/-- The extent of a cell in the units of points. -/
def scaledDelta (grid : Grid α) : Point α :=
  ⟨grid.delta.x * Degrees.ofInt grid.ratio.toInt, grid.delta.y * Degrees.ofInt grid.ratio.toInt⟩

/-- The south-western corner in the units of points. -/
def scaledOrigin (grid : Grid α) : Point α :=
  ⟨grid.origin.x * Degrees.ofInt grid.ratio.toInt, grid.origin.y * Degrees.ofInt grid.ratio.toInt⟩

/-- The north-eastern corner. -/
def corner (grid : Grid α) : Point α :=
  ⟨grid.origin.x + Degrees.ofInt grid.dimension * grid.delta.x,
    grid.origin.y + Degrees.ofInt grid.dimension * grid.delta.y⟩

/-- The box of the whole grid. -/
def bounds (grid : Grid α) : Box α := .between grid.origin grid.corner

/-! ## From points to keys -/

/-- The first axis along which cells cannot be counted, with the extent of a cell there. -/
def badAxis? (grid : Grid α) : Option (Axis × α) :=
  let delta := grid.scaledDelta
  if Degrees.isZero delta.x || !Degrees.isFinite delta.x then some (.longitude, delta.x)
  else if Degrees.isZero delta.y || !Degrees.isFinite delta.y then some (.latitude, delta.y)
  else none

/-- The row and the column of a point, negative before the origin. -/
def coordinate (grid : Grid α) (longitude latitude : Int64) :
    Except (GridFault α) (Int64 × Int64) :=
  match grid.badAxis? with
  | some (axis, delta) => .error (.delta axis delta)
  | none =>
    let origin := grid.scaledOrigin
    let delta := grid.scaledDelta
    .ok (Degrees.floor ((Degrees.ofInt longitude.toInt - origin.x) / delta.x),
      Degrees.floor ((Degrees.ofInt latitude.toInt - origin.y) / delta.y))

/-- The row and the column of a point from the origin on. -/
def locate (grid : Grid α) (longitude latitude : Int64) :
    Except (GridFault α) (Int64 × Int64) := do
  let (row, column) ← grid.coordinate longitude latitude
  if row < 0 || column < 0 then throw (.outOfDomain row column)
  return (row, column)

/-- The number of rows that have keys of their own. -/
def limit (grid : Grid α) : Int64 := Int64.ofNat (Nat.pow 2 (grid.level + 1))

/-- The key of the cell is that of another cell as well. -/
def isAliased (grid : Grid α) (row column : Int64) : Bool :=
  grid.limit ≤ row || grid.limit ≤ column

/-- The key of a cell. -/
def key (grid : Grid α) (row column : Int64) : Key :=
  cellKey grid.level row.toNatClampNeg column.toNatClampNeg

/-- The key of a point. -/
def encode (grid : Grid α) (longitude latitude : Int64) : Except (GridFault α) Key := do
  let (row, column) ← grid.locate longitude latitude
  return grid.key row column

/-- The point at some degrees. -/
def fixedPoint (grid : Grid α) (longitude latitude : α) : Except (GridFault α) (Int64 × Int64) :=
  if Degrees.isFinite longitude && Degrees.isFinite latitude then
    let ratio : α := Degrees.ofInt grid.ratio.toInt
    .ok (Degrees.round (longitude * ratio), Degrees.round (latitude * ratio))
  else .error (.notFinite longitude latitude)

/-- The key of the point at some degrees. -/
def encodeDegrees (grid : Grid α) (longitude latitude : α) : Except (GridFault α) Key := do
  let (longitude, latitude) ← grid.fixedPoint longitude latitude
  grid.encode longitude latitude

/-! ## From keys to boxes -/

/-- The box of the cell that a key names. -/
def cellBox [LT α] [DecidableLT α] (grid : Grid α) (key : Key) : Box α :=
  let (row, column) := keyCell grid.level key
  let left := grid.origin.x + Degrees.ofInt row * grid.delta.x
  let bottom := grid.origin.y + Degrees.ofInt column * grid.delta.y
  Box.ordered ⟨left, bottom, left + grid.delta.x, bottom + grid.delta.y⟩

end Grid

end ZGrid
