import ZGrid.Quadrant

/-!
# Plane/Box — points and upright rectangles

Longitudes run along `x`, latitudes along `y`.  A box is split at the midpoints of its sides, and
what a midpoint is belongs to the numbers: the two halves of a side share the very value at which
it was cut, so the quarters leave no gap however midpoints are rounded.
-/

namespace ZGrid

/-- A point of the plane. -/
structure Point (α : Type) where
  /-- The longitude. -/
  x : α
  /-- The latitude. -/
  y : α
deriving DecidableEq, Repr

/-- Numbers with a midpoint between any two. -/
class Midpoint (α : Type) where
  /-- The midpoint of two numbers. -/
  midpoint : α → α → α

/-- The midpoint of two floats is the first one with half the difference added. -/
instance : Midpoint Float := ⟨fun a b => a + (b - a) / 2.0⟩

/-- A rectangle with upright sides. -/
structure Box (α : Type) where
  /-- The western side. -/
  left : α
  /-- The southern side. -/
  bottom : α
  /-- The eastern side. -/
  right : α
  /-- The northern side. -/
  top : α
deriving DecidableEq, Repr

namespace Box

variable {α : Type}

/-- The south-western corner. -/
def low (box : Box α) : Point α := ⟨box.left, box.bottom⟩

/-- The north-eastern corner. -/
def high (box : Box α) : Point α := ⟨box.right, box.top⟩

/-- The box between two opposite corners, taken as they are. -/
def between (low high : Point α) : Box α := ⟨low.x, low.y, high.x, high.y⟩

/-! ## Splitting -/

section Split

variable [Midpoint α]

/-- The centre. -/
def center (box : Box α) : Point α :=
  ⟨Midpoint.midpoint box.left box.right, Midpoint.midpoint box.bottom box.top⟩

/-- A quarter of the box. -/
def quadrant (box : Box α) : Quadrant → Box α
  | .northWest => ⟨box.left, box.center.y, box.center.x, box.top⟩
  | .northEast => ⟨box.center.x, box.center.y, box.right, box.top⟩
  | .southWest => ⟨box.left, box.bottom, box.center.x, box.center.y⟩
  | .southEast => ⟨box.center.x, box.bottom, box.right, box.center.y⟩

/-- The box at the end of a path of quarters. -/
def follow (box : Box α) (path : List Quadrant) : Box α := path.foldl quadrant box

@[simp] theorem follow_nil (box : Box α) : box.follow [] = box := rfl

@[simp] theorem follow_cons (box : Box α) (quadrant : Quadrant) (path : List Quadrant) :
    box.follow (quadrant :: path) = (box.quadrant quadrant).follow path := rfl

end Split

/-! ## Comparing boxes -/

section Compare

variable [LT α] [DecidableLT α]

/-- The box with the sides of each axis put in order; sides that are not in strict order change
places. -/
def ordered (box : Box α) : Box α :=
  let (left, right) := if box.left < box.right then (box.left, box.right) else (box.right, box.left)
  let (bottom, top) := if box.bottom < box.top then (box.bottom, box.top) else (box.top, box.bottom)
  ⟨left, bottom, right, top⟩

/-- The other box reaches past this one on some side. -/
def exceededBy (box other : Box α) : Bool :=
  other.left < box.left || box.right < other.right || box.top < other.top ||
    other.bottom < box.bottom

/-- The two boxes share no point. -/
def apart (box other : Box α) : Bool :=
  box.right < other.left || other.right < box.left || box.top < other.bottom ||
    other.top < box.bottom

variable [LE α] [DecidableLE α]

/-- The other box lies within this one. -/
def covers (box other : Box α) : Bool :=
  box.left ≤ other.left && box.bottom ≤ other.bottom && other.right ≤ box.right &&
    other.top ≤ box.top

/-- A point inside the box or on a side. -/
def touches (box : Box α) (point : Point α) : Bool :=
  box.left ≤ point.x && point.x ≤ box.right && box.bottom ≤ point.y && point.y ≤ box.top

end Compare

end Box

end ZGrid
