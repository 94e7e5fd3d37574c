/-!
# Quadrant — the four quarters of a cell block

Rows count to the east and columns to the north:

```
   column
     ^
     |  NW | NE
     | ----+----
     |  SW | SE
     +-----------> row
```
-/

namespace ZGrid

/-- A quarter of a block. -/
inductive Quadrant where
  /-- The lower rows and the upper columns. -/
  | northWest
  /-- The upper rows and the upper columns. -/
  | northEast
  /-- The lower rows and the lower columns. -/
  | southWest
  /-- The upper rows and the lower columns. -/
  | southEast
deriving DecidableEq, Repr

namespace Quadrant

/-- The quarter holds the upper half of the rows. -/
def isEast : Quadrant → Bool
  | northEast | southEast => true
  | northWest | southWest => false

/-- The quarter holds the upper half of the columns. -/
def isNorth : Quadrant → Bool
  | northWest | northEast => true
  | southWest | southEast => false

/-- The quarters in the order in which a block is subdivided. -/
def all : List Quadrant := [northWest, northEast, southWest, southEast]

/-- The quarters in the order in which the ranges of a block are listed. -/
def listed : List Quadrant := [southWest, northWest, northEast, southEast]

/-- The quarters in the order of their keys. -/
def ascending : List Quadrant := [southWest, northWest, southEast, northEast]

/-- The quarter in the given halves of the rows and of the columns. -/
def ofHalves : (east north : Bool) → Quadrant
  | false, true => northWest
  | true, true => northEast
  | false, false => southWest
  | true, false => southEast

/-- The quarters that lead through `height` halvings to a cell, by the bits of its row and its
column from the highest of them on. -/
def path : (height row column : Nat) → List Quadrant
  | 0, _, _ => []
  | height + 1, row, column =>
    ofHalves (row.testBit height) (column.testBit height) :: path height row column

@[simp] theorem isEast_ofHalves (east north : Bool) : (ofHalves east north).isEast = east := by
  cases east <;> cases north <;> rfl

@[simp] theorem isNorth_ofHalves (east north : Bool) : (ofHalves east north).isNorth = north := by
  cases east <;> cases north <;> rfl

theorem ext {a b : Quadrant} (east : a.isEast = b.isEast) (north : a.isNorth = b.isNorth) :
    a = b := by cases a <;> cases b <;> simp_all [isEast, isNorth]

@[simp] theorem length_path (height row column : Nat) :
    (path height row column).length = height := by
  induction height with
  | zero => rfl
  | succ height ih => rw [path, List.length_cons, ih]

theorem mem_all (quadrant : Quadrant) : quadrant ∈ all := by cases quadrant <;> decide

theorem mem_listed (quadrant : Quadrant) : quadrant ∈ listed := by cases quadrant <;> decide

end Quadrant

end ZGrid
