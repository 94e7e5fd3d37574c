import ZGrid.Plane.Position

/-!
# Plane/Contact — whether a figure and a box share a point

An edge and a box are apart if one of three lines separates them: a line along either side of the
box, or one along the edge.  A figure meets a box if an edge of its outline does, or if a corner of
the box is not outside of it; any corner will do, because they are all alike unless some edge is in
between.  The edges of holes count as well where they cut the sides of the box.
-/

namespace ZGrid

namespace Box

/-- The corners counter-clockwise from the south-eastern one. -/
def corners (box : Box Int) : List (Point Int) :=
  [⟨box.right, box.bottom⟩, ⟨box.right, box.top⟩, ⟨box.left, box.top⟩, ⟨box.left, box.bottom⟩]

/-- A point off the sides, within the box. -/
def encloses (box : Box Int) (p : Point Int) : Bool :=
  box.left < p.x && p.x < box.right && box.bottom < p.y && p.y < box.top

end Box

namespace Edge

/-- The edge lies beyond one of the sides of a box. -/
def isBeyond (edge : Edge) (box : Box Int) : Bool :=
  (edge.tail.x < box.left && edge.head.x < box.left) ||
    (box.right < edge.tail.x && box.right < edge.head.x) ||
    (edge.tail.y < box.bottom && edge.head.y < box.bottom) ||
    (box.top < edge.tail.y && box.top < edge.head.y)

/-- The edge shares a point with a box. -/
def meets (edge : Edge) (box : Box Int) : Bool :=
  !edge.isBeyond box &&
    !box.corners.all (fun corner => 0 < edge.turn corner) &&
    !box.corners.all (fun corner => edge.turn corner < 0)

/-- The edge shares a point with the sides of a box. -/
def cuts (edge : Edge) (box : Box Int) : Bool :=
  edge.meets box && !(box.encloses edge.tail && box.encloses edge.head)

end Edge

namespace Ring

/-- The least box around the ring, if it has a vertex, is apart from a box. -/
def isApart (ring : Ring) (box : Box Int) : Bool :=
  !ring.vertices.isEmpty &&
    (ring.vertices.all (·.x < box.left) || ring.vertices.all (box.right < ·.x) ||
      ring.vertices.all (·.y < box.bottom) || ring.vertices.all (box.top < ·.y))

end Ring

namespace Figure

/-- The figure shares a point with a box. -/
def meets (figure : Figure) (box : Box Int) : Bool :=
  !figure.outline.isApart box &&
    (figure.outline.start?.any box.touches ||
      figure.outline.edges.any (·.meets box) ||
      (figure.holes.any fun hole => hole.edges.any (·.cuts box)) ||
      box.corners.head?.any (figure.position · ≠ .outside))

end Figure

end ZGrid
