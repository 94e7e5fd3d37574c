import ZGrid.Plane.Covering

/-!
# Region — what a shape answers about boxes and points

The decomposition of a shape asks it three things of a box or a point.  A shape is the answers,
over any kind of number; a region is a shape with a box around it.  The laws of the decomposition
hold for whatever the answers are.
-/

namespace ZGrid

/-- The answers of a shape. -/
structure Shape (α : Type) where
  /-- The shape shares no point with a box. -/
  misses : Box α → Bool
  /-- No point of a box lies outside the shape. -/
  covers : Box α → Bool
  /-- A point lies inside the shape or on its boundary. -/
  touches : Point α → Bool

/-- The answers of a shape that lies within a box. -/
structure Region (α : Type) extends Shape α where
  /-- A box around the shape. -/
  envelope : Box α

namespace Shape

/-- The answers of a polygon. -/
def ofPolygon (polygon : Polygon Float) : Shape Float :=
  let figure := Figure.ofPolygon polygon
  let drawing := Drawing.ofFigure figure
  { misses := fun box => !figure.meets box.exact
    covers := fun box => drawing.covers box.exact
    touches := figure.touches }

/-- The answers of a box. -/
def ofBox (box : Box Float) : Shape Float where
  misses := fun other => box.apart other.ordered
  covers := fun other => box.covers other.ordered
  touches := box.touches

end Shape

namespace Region

/-- A box is apart from the envelope or from the shape. -/
def skips {α : Type} [LT α] [DecidableLT α] (region : Region α) (box : Box α) : Bool :=
  region.envelope.apart box.ordered || region.misses box

/-- The region of a polygon, if it has a vertex. -/
def ofPolygon (polygon : Polygon Float) : Except Error (Region Float) := do
  return { Shape.ofPolygon polygon with envelope := ← polygon.envelope }

end Region

end ZGrid
