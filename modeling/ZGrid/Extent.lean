import ZGrid.KeyRange
import ZGrid.Quadrant

/-!
# Extent — a block of grid cells

A block is its rows `[startRow, stopRow)` and its columns `[startColumn, stopColumn)`.  Its range
runs from the key of the first cell to the key of the last one.  For an aligned square with a
power of two as its side these are all keys of the block, and only those.
-/

namespace ZGrid

/-- The rows and the columns of a block of cells. -/
structure Extent where
  /-- The first row. -/
  startRow : Nat
  /-- One past the last row. -/
  stopRow : Nat
  /-- The first column. -/
  startColumn : Nat
  /-- One past the last column. -/
  stopColumn : Nat
deriving DecidableEq, Repr

namespace Extent

/-- The whole grid of `level` halvings. -/
def whole (level : Nat) : Extent := ⟨0, Nat.pow 2 level, 0, Nat.pow 2 level⟩

/-- The row at which the block is halved. -/
def middleRow (extent : Extent) : Nat := extent.startRow + (extent.stopRow - extent.startRow) / 2

/-- The column at which the block is halved. -/
def middleColumn (extent : Extent) : Nat :=
  extent.startColumn + (extent.stopColumn - extent.startColumn) / 2

/-- A quarter of the block. -/
def quadrant (extent : Extent) : Quadrant → Extent
  | .northWest => ⟨extent.startRow, extent.middleRow, extent.middleColumn, extent.stopColumn⟩
  | .northEast => ⟨extent.middleRow, extent.stopRow, extent.middleColumn, extent.stopColumn⟩
  | .southWest => ⟨extent.startRow, extent.middleRow, extent.startColumn, extent.middleColumn⟩
  | .southEast => ⟨extent.middleRow, extent.stopRow, extent.startColumn, extent.middleColumn⟩

/-- The block at the end of a path of quarters. -/
def follow (extent : Extent) (path : List Quadrant) : Extent := path.foldl quadrant extent

@[simp] theorem follow_nil (extent : Extent) : extent.follow [] = extent := rfl

@[simp] theorem follow_cons (extent : Extent) (quadrant : Quadrant) (path : List Quadrant) :
    extent.follow (quadrant :: path) = (extent.quadrant quadrant).follow path := rfl

/-- The range from the key of the first cell to the key of the last one. -/
def range (level : Nat) (extent : Extent) : KeyRange where
  start := cellKey level extent.startRow extent.startColumn
  stop := cellKey level (extent.stopRow - 1) (extent.stopColumn - 1)

/-- A cell of the block. -/
def Holds (extent : Extent) (row column : Nat) : Prop :=
  extent.startRow ≤ row ∧ row < extent.stopRow ∧
    extent.startColumn ≤ column ∧ column < extent.stopColumn

instance (extent : Extent) (row column : Nat) : Decidable (extent.Holds row column) :=
  inferInstanceAs (Decidable (_ ∧ _))

end Extent

end ZGrid
