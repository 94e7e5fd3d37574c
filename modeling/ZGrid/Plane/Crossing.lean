import ZGrid.Plane.Contact

/-!
# Plane/Crossing — where two edges meet

Two edges that meet share an end of one of them, which is known exactly, or they **cross** at a
point within both.  A crossing is a rational point in general and is written down as the nearest
pair of floats that the homogeneous equations of the two lines lead to, taken relative to the
middle of the box in which the point must be:

```
   line through (x₁, y₁), (x₂, y₂):   (y₁ - y₂) x + (x₂ - x₁) y + (x₁ y₂ - x₂ y₁) = 0
```

The outcome is the same for the edges in either order and in either direction.  Should rounding
carry it out of the boxes of the edges, the end that is nearest to the other edge stands for it.
-/

namespace ZGrid.Edge

/-- The inner parts of two edges cross. -/
def crosses (edge other : Edge) : Bool :=
  edge.turn other.tail * edge.turn other.head < 0 && other.turn edge.tail * other.turn edge.head < 0

/-- The ends of two edges that lie on the other edge. -/
def touches (edge other : Edge) : List (Point Int) :=
  [other.tail, other.head].filter edge.holds ++ [edge.tail, edge.head].filter other.holds

/-! ## Rounded crossings -/

/-- A point where two lines cross, as the equations of the lines give it. -/
def solve (edge other : Edge) : Point Float :=
  let a := edge.span
  let b := other.span
  let middleX := (floatCoordinate (max a.left b.left) + floatCoordinate (min a.right b.right)) / 2.0
  let middleY := (floatCoordinate (max a.bottom b.bottom) + floatCoordinate (min a.top b.top)) / 2.0
  let line (edge : Edge) : Float × Float × Float :=
    let tail := edge.tail.float
    let head := edge.head.float
    let x1 := tail.x - middleX
    let y1 := tail.y - middleY
    let x2 := head.x - middleX
    let y2 := head.y - middleY
    (y1 - y2, x2 - x1, x1 * y2 - x2 * y1)
  let (px, py, pw) := line edge
  let (qx, qy, qw) := line other
  let w := px * qy - qx * py
  ⟨(py * qw - qy * pw) / w + middleX, (qx * pw - px * qw) / w + middleY⟩

/-- The square of the distance from a point to an edge with a length, as a fraction. -/
def distance (edge : Edge) (p : Point Int) : Int × Int :=
  let square (a b : Point Int) : Int :=
    (a.x - b.x) * (a.x - b.x) + (a.y - b.y) * (a.y - b.y)
  let along := (p.x - edge.tail.x) * (edge.head.x - edge.tail.x) +
    (p.y - edge.tail.y) * (edge.head.y - edge.tail.y)
  let length := square edge.tail edge.head
  if along ≤ 0 then (square edge.tail p, 1)
  else if length ≤ along then (square edge.head p, 1)
  else (edge.turn p * edge.turn p, length)

/-- The end of two edges that is nearest to the other edge. -/
def nearestEnd (edge other : Edge) : Point Int :=
  let ends := [(edge.head, other.distance edge.head), (other.tail, edge.distance other.tail),
    (other.head, edge.distance other.head)]
  (ends.foldl (fun best candidate =>
      if candidate.2.1 * best.2.2 < best.2.1 * candidate.2.2 then candidate else best)
    (edge.tail, other.distance edge.tail)).1

/-- The point where two edges cross, rounded to floats. -/
def crossing (edge other : Edge) : Point Int :=
  let point := solve edge other
  if Float64.isFinite point.x && Float64.isFinite point.y && edge.span.touches point.exact &&
      other.span.touches point.exact then
    point.exact
  else nearestEnd edge other

/-- The points where two edges meet: the ends that one has on the other, or the crossing. -/
def junctions (edge other : Edge) : List (Point Int) :=
  match edge.touches other with
  | [] => if edge.crosses other then [edge.crossing other] else []
  | ends => ends

/-- Two edges share a point. -/
def joins (edge other : Edge) : Bool := edge.crosses other || !(edge.touches other).isEmpty

end ZGrid.Edge
