import ZGrid.Error
import ZGrid.Plane.Box

/-!
# Plane/Polygon — outlines with holes

A polygon is an outline and any number of holes, each a ring of vertices that ends where it began.
A ring that is given open is closed by its first vertex.  Nothing is asked of the shape of a ring:
it may cross itself or be flat.

A polygon for a query is one ring of at least three different points.
-/

namespace ZGrid

/-- An outline and the holes in it. -/
structure Polygon (α : Type) where
  /-- The vertices of the outline. -/
  outline : List (Point α)
  /-- The vertices of each hole. -/
  holes : List (List (Point α))
deriving DecidableEq, Repr

/-- Two points with equal coordinates. -/
def Point.same (a b : Point Float) : Bool := a.x == b.x && a.y == b.y

namespace Polygon

/-- A ring that ends where it began. -/
def closed (ring : List (Point Float)) : List (Point Float) :=
  match ring.head?, ring.getLast? with
  | some first, some last => if first.same last then ring else ring ++ [first]
  | _, _ => ring

/-- The polygon of some rings, each closed if it is not. -/
def ofRings (outline : List (Point Float)) (holes : List (List (Point Float))) : Polygon Float :=
  ⟨closed outline, holes.map closed⟩

/-! ## The envelope -/

/-- A range of coordinates made wide enough for one more. -/
def widen (range : Float × Float) (x : Float) : Float × Float :=
  if x > range.2 then (range.1, x) else if x < range.1 then (x, range.2) else range

/-- The least box around some points, if there are any. -/
def boundingBox? : List (Point Float) → Option (Box Float)
  | [] => none
  | first :: rest =>
    let xs := rest.foldl (fun range point => widen range point.x) (first.x, first.x)
    let ys := rest.foldl (fun range point => widen range point.y) (first.y, first.y)
    some (Box.ordered ⟨xs.1, ys.1, xs.2, ys.2⟩)

/-- The least box around the outline. -/
def envelope (polygon : Polygon Float) : Except Error (Box Float) :=
  match boundingBox? polygon.outline with
  | some box => .ok box
  | none => .error (.invalidInput .noVertices)

/-! ## Polygons for queries -/

/-- Points with the next one added if it differs from all of them; three are enough. -/
def addDistinct (points : List (Point Float)) (point : Point Float) : List (Point Float) :=
  if points.length < 3 && !points.any point.same then point :: points else points

/-- The first vertex with a coordinate that is no finite number. -/
def findNotFinite (vertices : List (Point Float)) : Option (Point Float) :=
  vertices.find? fun vertex => !(Float64.isFinite vertex.x && Float64.isFinite vertex.y)

/-- The polygon with the given vertices for its outline. -/
def ofVertices (vertices : List (Point Float)) : Except Error (Polygon Float) :=
  match findNotFinite vertices with
  | some vertex => .error (.invalidInput (.vertexNotFinite vertex.x vertex.y))
  | none =>
    let distinct := (vertices.foldl addDistinct []).length
    if distinct < 3 then .error (.invalidInput (.tooFewDistinct distinct))
    else .ok (ofRings vertices [])

end Polygon

end ZGrid
