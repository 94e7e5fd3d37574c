import ZGrid.Plane.Arm
import ZGrid.Plane.Crossing

/-!
# Plane/Drawing — the edges of a figure with the points marked on them

A **mark** is a point of an edge at which something else may leave it: the point where the ring
begins, and every point where the edge meets an edge of another ring.  Where a ring meets itself
there is no mark.  At a mark the edge goes on to the next mark in either direction, or to its end.

```
   tail ──●────────●──── head          two marks, and two arms at each
```
-/

namespace ZGrid

/-- An edge with a length and the points marked on it. -/
structure Track where
  /-- The edge. -/
  edge : Edge
  /-- The inner side is the left one. -/
  insideLeft : Bool
  /-- The marks, in any order. -/
  marks : List (Point Int)
deriving DecidableEq, Repr

namespace Track

/-- How far a point of the edge is from its tail, along the axis on which the edge is longer. -/
def reach (track : Track) (p : Point Int) : Nat :=
  let edge := track.edge
  let dx := (p.x - edge.tail.x).natAbs
  let dy := (p.y - edge.tail.y).natAbs
  let far := if (edge.head.y - edge.tail.y).natAbs < (edge.head.x - edge.tail.x).natAbs then dx
    else dy
  if far = 0 then max dx dy else far

/-- The next mark behind a point, or the head. -/
def next (track : Track) (p : Point Int) : Point Int :=
  (track.marks.filter fun mark => track.reach p < track.reach mark).foldl
    (fun best mark => if track.reach mark < track.reach best then mark else best) track.edge.head

/-- The last mark before a point, or the tail. -/
def previous (track : Track) (p : Point Int) : Point Int :=
  (track.marks.filter fun mark => track.reach mark < track.reach p).foldl
    (fun best mark => if track.reach best < track.reach mark then mark else best) track.edge.tail

/-- The arms of the edge at a mark. -/
def arms (track : Track) (p : Point Int) : List Arm :=
  if track.marks.contains p then
    (if p = track.edge.head then []
      else [Arm.between p (track.next p) track.insideLeft (!track.insideLeft)]) ++
    (if p = track.edge.tail then []
      else [Arm.between p (track.previous p) (!track.insideLeft) track.insideLeft])
  else []

end Track

namespace Ring

/-- The sides of a ring with marks where it begins, which is where it ends, and where they meet
other edges. -/
def tracks (ring : Ring) (others : List Edge) : List Track :=
  let sides := ring.sides
  sides.zipIdx.map fun (edge, index) => {
    edge
    insideLeft := ring.insideLeft
    marks := (if index = 0 then [edge.tail] else []) ++
      (if index + 1 = sides.length then [edge.head] else []) ++ others.flatMap edge.junctions }

/-- No edge of the ring meets one of the given edges. -/
def isLoose (ring : Ring) (others : List Track) : Bool :=
  ring.sides.all fun edge => others.all fun track => !edge.joins track.edge

end Ring

/-- A figure with its edges marked. -/
structure Drawing where
  /-- The figure. -/
  figure : Figure
  /-- The edges of all rings. -/
  tracks : List Track
deriving DecidableEq, Repr

namespace Drawing

/-- The drawing of a figure. -/
def ofFigure (figure : Figure) : Drawing where
  figure
  tracks := figure.rings.zipIdx.flatMap fun (ring, index) =>
    ring.tracks ((figure.rings.eraseIdx index).flatMap (·.sides))

/-- The drawing of a box. -/
def ofBox (box : Box Int) : Drawing :=
  ofFigure ⟨.ofVertices false (box.corners ++ box.corners.head?.toList), []⟩

/-- The drawing without the edges that are apart from a box. -/
def near (drawing : Drawing) (box : Box Int) : Drawing where
  figure := drawing.figure
  tracks := drawing.tracks.filter fun track =>
    track.edge.meets box || track.marks.any box.touches

/-- The points that are marked, or at which a ring begins. -/
def nodes (drawing : Drawing) : List (Point Int) :=
  drawing.figure.rings.filterMap (·.start?) ++ drawing.tracks.flatMap (·.marks)

/-- The drawing with marks where its edges touch those of another drawing. -/
def marked (drawing other : Drawing) : Drawing where
  figure := drawing.figure
  tracks := drawing.tracks.map fun track =>
    { track with marks := track.marks ++ other.tracks.flatMap fun o => track.edge.touches o.edge }

/-- The arms of all edges at a mark. -/
def arms (drawing : Drawing) (p : Point Int) : List Arm :=
  Arm.gather (drawing.tracks.flatMap (·.arms p))

/-- The crossings with the edges of another drawing. -/
def crossings (drawing other : Drawing) : List (Edge × Edge) :=
  drawing.tracks.flatMap fun track =>
    (other.tracks.filter fun o => track.edge.crosses o.edge).map fun o => (track.edge, o.edge)

end Drawing

end ZGrid
