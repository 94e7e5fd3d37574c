import ZGrid.Plane.Drawing

/-!
# Plane/Covering — whether a figure covers a box

A **sighting** is where a place lies with regard to the figure and to the box.  A box is covered if
something is sighted inside both, and nothing that is inside the box or on its boundary is sighted
outside the figure.  It is enough to look along the edges:

* where edges of the two cross;
* around the marks, between the arms of either;
* along a ring that meets no edge of the other one: all of it lies where it begins.

```
            arm of the box
                 |  box inside
   figure inside | figure inside          sighted: (inside, outside), (inside, inside),
   ──────────────●──────────────                   (outside, outside)
      arm of the figure
```
-/

namespace ZGrid

/-- Where a place lies with regard to a figure and to a box. -/
structure Sighting where
  /-- With regard to the figure. -/
  inFigure : Position
  /-- With regard to the box. -/
  inBox : Position
deriving DecidableEq, Repr

namespace Sighting

/-- A place inside both. -/
def isCommon (sighting : Sighting) : Bool := sighting = ⟨.inside, .inside⟩

/-- A place of the box outside the figure. -/
def isBare (sighting : Sighting) : Bool :=
  sighting.inFigure = .outside && sighting.inBox ≠ .outside

end Sighting

namespace Drawing

/-- Where a point without any arm lies: no figure that is less than an area has room for it. -/
def ground (drawing : Drawing) (p : Point Int) : Position :=
  if drawing.figure.extension = .area then drawing.figure.position p else .outside

/-- Where a ring lies that begins at a point and meets no edge of the figure: a point has nothing
inside or on its boundary. -/
def seat (drawing : Drawing) (p : Point Int) : Position :=
  if drawing.figure.extension = .point then .outside else drawing.figure.position p

/-- What is sighted where edges cross.  Of two areas each goes on outside the other one; a line goes
on inside an area and outside of it.  A crossing that is a node of either is not looked at here. -/
def sightCrossings (drawing box : Drawing) : List Sighting :=
  let isNew (pair : Edge × Edge) : Bool :=
    let p := pair.1.crossing pair.2
    !drawing.nodes.contains p && !box.nodes.contains p
  match drawing.figure.extension, box.figure.extension with
  | .area, .area => if (drawing.crossings box).isEmpty then [] else [⟨.outside, .inside⟩]
  | .area, _ =>
    if (drawing.crossings box).any isNew then [⟨.inside, .inside⟩, ⟨.outside, .inside⟩] else []
  | .line, _ => if (drawing.crossings box).any isNew then [⟨.inside, .inside⟩] else []
  | .point, _ => []

/-- What is sighted along the rings that meet no edge of the other drawing; those of the figure
count only if they lie in the box. -/
def sightLoose (drawing box : Drawing) : List Sighting :=
  let all : List Position := [.inside, .boundary, .outside]
  let own := drawing.figure.rings.flatMap fun ring =>
    match ring.start?.map box.seat with
    | none | some .outside => []
    | some position =>
      if ring.isLoose box.tracks then all.map fun side => ⟨side, position⟩ else []
  let others := box.figure.rings.flatMap fun ring =>
    match ring.start?.map drawing.seat with
    | none => []
    | some position =>
      if ring.isLoose drawing.tracks then all.map fun side => ⟨position, side⟩ else []
  own ++ others

/-- What is sighted around a point. -/
def sightAround (drawing box : Drawing) (p : Point Int) : List Sighting :=
  let own := drawing.arms p
  let others := box.arms p
  let ground := if own.isEmpty then drawing.ground p else .outside
  let otherGround := if others.isEmpty then box.ground p else .outside
  (own ++ others).flatMap fun arm =>
    let (left, right) := Arm.sides own ground arm.toward
    let (boxLeft, boxRight) := Arm.sides others otherGround arm.toward
    [⟨left, boxLeft⟩, ⟨right, boxRight⟩]

/-- What is sighted around the marks in a box. -/
def sightMarks (drawing other : Drawing) (box : Box Int) : List Sighting :=
  let marked := drawing.marked other
  let otherMarked := other.marked drawing
  let marks := ((marked.tracks ++ otherMarked.tracks).flatMap (·.marks)).filter box.touches
  marks.eraseDups.flatMap (sightAround marked otherMarked)

/-- The figure covers a box; without an outline it covers none. -/
def covers (drawing : Drawing) (box : Box Int) : Bool :=
  if drawing.figure.outline.vertices.isEmpty || drawing.figure.outline.isApart box then false
  else
    let near := drawing.near box
    let other := ofBox box
    let crossings := near.sightCrossings other
    if crossings.any (·.isBare) then false
    else
      let sightings := crossings ++ near.sightLoose other ++ near.sightMarks other box
      !sightings.any (·.isBare) && sightings.any (·.isCommon)

end Drawing

end ZGrid
