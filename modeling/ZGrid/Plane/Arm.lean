import ZGrid.Plane.Position

/-!
# Plane/Arm — what is inside around a point

An **arm** is a direction in which edges leave a point.  It tells what is inside on its left and on
its right; between two arms the left side of the former one, counter-clockwise, holds on.

```
            inside
   ─────────●─────────   left of the eastern arm is right of the western one
            outside
```

Edges that leave a point in one direction make one arm, inside on a side if one of them is; so the
two sides of a flat ring are inside alike.
-/

namespace ZGrid

namespace Direction

/-- How far one direction points to the left of another one. -/
def cross (a b : Point Int) : Int := a.x * b.y - a.y * b.x

/-- Two directions are one. -/
def same (a b : Point Int) : Bool := cross a b == 0 && 0 < a.x * b.x + a.y * b.y

/-- A direction to the north, or to the east. -/
def isUpper (a : Point Int) : Bool := 0 < a.y || a.y == 0 && 0 < a.x

/-- A direction comes before another one, counter-clockwise from the east. -/
def before (a b : Point Int) : Bool :=
  if isUpper a == isUpper b then 0 < cross a b else isUpper a

end Direction

/-- A direction in which edges leave a point. -/
structure Arm where
  /-- The direction as a difference of points. -/
  toward : Point Int
  /-- The left side is inside. -/
  left : Bool
  /-- The right side is inside. -/
  right : Bool
deriving DecidableEq, Repr

namespace Arm

/-- The arm from one point to another one. -/
def between (p q : Point Int) (left right : Bool) : Arm := ⟨⟨q.x - p.x, q.y - p.y⟩, left, right⟩

/-- Arms with one more, those in one direction made one. -/
def add (arm : Arm) : List Arm → List Arm
  | [] => [arm]
  | other :: rest =>
    if Direction.same arm.toward other.toward then
      ⟨other.toward, other.left || arm.left, other.right || arm.right⟩ :: rest
    else other :: add arm rest

/-- Arms with those in one direction made one, counter-clockwise from the east. -/
def gather (arms : List Arm) : List Arm :=
  (arms.foldr add []).mergeSort fun a b => !Direction.before b.toward a.toward

/-- The position of a side. -/
def side (inside : Bool) : Position := if inside then .inside else .outside

/-- What some arms tell of the left and the right of a direction; without any arm all around is
where the point itself is. -/
def sides (arms : List Arm) (point : Position) (direction : Point Int) : Position × Position :=
  match arms.find? fun arm => Direction.same arm.toward direction with
  | some arm => (side arm.left, side arm.right)
  | none =>
    let former := arms.filter fun arm => Direction.before arm.toward direction
    match (former.getLast?).or arms.getLast? with
    | some arm => (side arm.left, side arm.left)
    | none => (point, point)

end Arm

end ZGrid
