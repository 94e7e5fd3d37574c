import ZGrid.Extent
import ZGrid.KeyRange.Merge
import ZGrid.Region

/-!
# Cover — the cells that a shape selects, as a tree of blocks

A block of `2 ^ height` rows and columns is **full** when the shape covers its box.  Otherwise its
quarters are looked at, those that the shape misses left out, down to single cells; a cell is
selected when the shape touches its centre.  On the way back

* four full quarters make their block full,
* quarters without a selected cell are dropped, and a block without any quarter left is
  **disjoint**,
* any other block is **partial**.

```
   partial                     NW  full
   ├── NW  full          ⟶     SE  full in SW      two ranges, merged where they touch
   └── SE  partial
       └── SW  full
```

A tree keeps the statuses alone.  The box, the rows and columns, and the range of a block follow
from the path that leads to it.
-/

namespace ZGrid

/-- How much of a block a shape selects. -/
inductive Status where
  /-- No cell. -/
  | disjoint
  /-- Some cells. -/
  | «partial»
  /-- All cells. -/
  | full
deriving DecidableEq, Repr

/-- A tree of blocks, or a place where none stands. -/
inductive Cover where
  /-- No block. -/
  | vacant
  /-- A block and its quarters. -/
  | block (status : Status) (northWest northEast southWest southEast : Cover)
deriving DecidableEq, Repr

namespace Cover

/-- The tree with the given quarters. -/
def build (status : Status) (child : Quadrant → Cover) : Cover :=
  .block status (child .northWest) (child .northEast) (child .southWest) (child .southEast)

/-- A block without quarters. -/
def leaf (status : Status) : Cover := .block status .vacant .vacant .vacant .vacant

/-- The status; a vacant place selects nothing. -/
def status : Cover → Status
  | vacant => .disjoint
  | block status .. => status

/-- What stands at a quarter. -/
def child : Cover → Quadrant → Cover
  | vacant, _ => vacant
  | block _ northWest _ _ _, .northWest => northWest
  | block _ _ northEast _ _, .northEast => northEast
  | block _ _ _ southWest _, .southWest => southWest
  | block _ _ _ _ southEast, .southEast => southEast

/-- What stands at the end of a path of quarters. -/
def follow (cover : Cover) (path : List Quadrant) : Cover := path.foldl child cover

/-- No block stands here. -/
def isVacant : Cover → Bool
  | vacant => true
  | block .. => false

/-- Some quarter has a block. -/
def hasChildren (cover : Cover) : Bool :=
  Quadrant.all.any fun quadrant => !(cover.child quadrant).isVacant

/-- The number of blocks. -/
def size : Cover → Nat
  | vacant => 0
  | block _ northWest northEast southWest southEast =>
    1 + (northWest.size + northEast.size + southWest.size + southEast.size)

@[simp] theorem status_build (status : Status) (child : Quadrant → Cover) :
    (build status child).status = status := rfl

@[simp] theorem child_build (status : Status) (child : Quadrant → Cover) (quadrant : Quadrant) :
    (build status child).child quadrant = child quadrant := by cases quadrant <;> rfl

@[simp] theorem status_leaf (status : Status) : (leaf status).status = status := rfl

@[simp] theorem child_leaf (status : Status) (quadrant : Quadrant) :
    (leaf status).child quadrant = vacant := by cases quadrant <;> rfl

@[simp] theorem child_vacant (quadrant : Quadrant) : vacant.child quadrant = vacant := rfl

@[simp] theorem follow_nil (cover : Cover) : cover.follow [] = cover := rfl

@[simp] theorem follow_cons (cover : Cover) (quadrant : Quadrant) (path : List Quadrant) :
    cover.follow (quadrant :: path) = (cover.child quadrant).follow path := rfl

@[simp] theorem follow_vacant (path : List Quadrant) : vacant.follow path = vacant := by
  induction path with
  | nil => rfl
  | cons quadrant path ih => rw [follow_cons, child_vacant, ih]

@[simp] theorem isVacant_iff {cover : Cover} : cover.isVacant = true ↔ cover = vacant := by
  cases cover <;> simp [isVacant]

/-! ## Selecting cells -/

/-- A block that selects nothing gives way to a vacant place. -/
def pruned (cover : Cover) : Cover := if cover.status = .disjoint then .vacant else cover

/-- A block with its status read off its quarters. -/
def settle (cover : Cover) : Cover :=
  if Quadrant.all.all fun quadrant => (cover.child quadrant).status = .full then leaf .full
  else if Quadrant.all.all fun quadrant => (cover.child quadrant).status = .disjoint then
    leaf .disjoint
  else build .partial fun quadrant => (cover.child quadrant).pruned

section Select

variable {α : Type} [LT α] [DecidableLT α] [Midpoint α]

/-- The tree of the cells that a region selects in a box of `2 ^ height` rows and columns. -/
def select (region : Region α) : (height : Nat) → Box α → Cover
  | 0, box => leaf (if region.touches box.center then .full else .disjoint)
  | height + 1, box =>
    if region.covers box then leaf .full
    else
      settle <| build .partial fun quadrant =>
        if region.skips (box.quadrant quadrant) then vacant
        else select region height (box.quadrant quadrant)

/-- The tree with a region selected in it.  What a former region left in a quarter stays if the
region misses that quarter, or if it covers the whole box. -/
def reselect (region : Region α) : (height : Nat) → Box α → Cover → Cover
  | 0, box, former =>
    build (if region.touches box.center then .full else .disjoint) former.child
  | height + 1, box, former =>
    if region.covers box then build .full former.child
    else
      settle <| build .partial fun quadrant =>
        if region.skips (box.quadrant quadrant) then former.child quadrant
        else select region height (box.quadrant quadrant)

/-- The cells whose centres are looked at, in order, and what was found. -/
def visits (region : Region α) : (height : Nat) → Box α → Extent → List (Extent × Status)
  | 0, box, extent => [(extent, if region.touches box.center then .full else .disjoint)]
  | height + 1, box, extent =>
    if region.covers box then []
    else
      Quadrant.all.flatMap fun quadrant =>
        if region.skips (box.quadrant quadrant) then []
        else visits region height (box.quadrant quadrant) (extent.quadrant quadrant)

end Select

/-! ## Ranges -/

/-- The ranges of the full blocks in an extent, in the order of the quarters. -/
def ranges (level : Nat) : (extent : Extent) → Cover → List KeyRange
  | _, vacant => []
  | extent, block status northWest northEast southWest southEast =>
    match status with
    | .full => [extent.range level]
    | .disjoint => []
    | .partial =>
      ranges level (extent.quadrant .southWest) southWest ++
        (ranges level (extent.quadrant .northWest) northWest ++
          (ranges level (extent.quadrant .northEast) northEast ++
            ranges level (extent.quadrant .southEast) southEast))

end Cover

end ZGrid
