import ZGrid.Plane.Figure

/-!
# Plane/Position — where a point lies

A point lies on a ring if it lies on one of its edges.  Otherwise the **winding number** tells how
often the ring runs around it: an edge that passes the point's height to the north, to the right
of the point, counts one, an edge that passes it to the south counts minus one.

```
         head
          ↑
    p     |         the point is left of the edge: +1
          |
         tail
```

A point is inside a ring with a winding number other than zero, so the inner part of a ring that
crosses itself is inside as well.

A point need not have numbers for its coordinates.  Without numbers it is outside, and at an
infinity too, with one exception: far to the west every edge is on the right, but an edge that
begins or ends at the height of the point does not count.
-/

namespace ZGrid

/-- Where a point lies with regard to a ring or a figure. -/
inductive Position where
  /-- Beyond it. -/
  | outside
  /-- On its boundary. -/
  | boundary
  /-- Within it. -/
  | inside
deriving DecidableEq, Repr

namespace Edge

/-- The least box around an edge. -/
def span (edge : Edge) : Box Int where
  left := min edge.tail.x edge.head.x
  bottom := min edge.tail.y edge.head.y
  right := max edge.tail.x edge.head.x
  top := max edge.tail.y edge.head.y

/-- A point on the edge. -/
def holds (edge : Edge) (p : Point Int) : Bool := edge.span.touches p && edge.turn p == 0

/-- What the edge adds to the winding number around a point that it does not hold. -/
def winding (edge : Edge) (p : Point Int) : Int :=
  if edge.tail.y ≤ p.y then
    if p.y < edge.head.y ∧ 0 < edge.turn p then 1 else 0
  else if edge.head.y ≤ p.y ∧ edge.turn p < 0 then -1
  else 0

/-- What the edge adds to the winding number around a point at a height far to the west. -/
def farWinding (edge : Edge) (height : Int) : Int :=
  if edge.tail.y < height ∧ height < edge.head.y then 1
  else if edge.head.y < height ∧ height < edge.tail.y then -1
  else 0

end Edge

namespace Ring

/-- A point on the ring. -/
def holds (ring : Ring) (p : Point Int) : Bool :=
  ring.start? = some p || ring.edges.any (·.holds p)

/-- How often the ring runs around a point. -/
def winding (ring : Ring) (p : Point Int) : Int :=
  ring.edges.foldl (fun total edge => total + edge.winding p) 0

/-- Where a point lies with regard to a ring. -/
def position (ring : Ring) (p : Point Int) : Position :=
  if ring.holds p then .boundary
  else if ring.winding p = 0 then .outside
  else .inside

/-- Where a point at a height far to the west lies with regard to a ring. -/
def farPosition (ring : Ring) (height : Int) : Position :=
  if ring.edges.foldl (fun total edge => total + edge.farWinding height) 0 = 0 then .outside
  else .inside

end Ring

namespace Figure

/-- A position with regard to a figure from those with regard to its rings: inside a hole is
outside. -/
def combine (figure : Figure) (place : Ring → Position) : Position :=
  match place figure.outline with
  | .inside =>
    match (figure.holes.map place).find? (· ≠ .outside) with
    | none => .inside
    | some .boundary => .boundary
    | some _ => .outside
  | position => position

/-- Where a point lies with regard to a figure. -/
def position (figure : Figure) (p : Point Int) : Position :=
  figure.combine fun ring => ring.position p

/-- Where a point lies whose coordinates need not be numbers. -/
def floatPosition (figure : Figure) (p : Point Float) : Position :=
  match Binary.ofFloat p.x, Binary.ofFloat p.y with
  | .finite .., .finite .. => figure.position p.exact
  | .infinite true, .finite .. => figure.combine fun ring => ring.farPosition p.exact.y
  | _, _ => .outside

/-- A point inside the figure or on its boundary. -/
def touches (figure : Figure) (p : Point Float) : Bool := figure.floatPosition p ≠ .outside

end Figure

end ZGrid
