import ZGrid.Plane.Polygon

/-!
# Plane/Figure — polygons over the integers

Every finite float is a whole multiple of `2 ^ -1074`.  Counted in half of that unit, coordinates
and midpoints of coordinates are integers, and on which side of an edge a point lies is the sign
of one integer: nothing is rounded, so a point on an edge is seen to be on it.

A figure is a polygon in these units, each ring cut into its edges.  On which side of its edges a
ring is inside follows from one turn of it: at its westernmost vertex a ring that is run through
counter-clockwise turns left.
-/

namespace ZGrid

/-- A coordinate in units of `2 ^ -1075`; an infinity is farther out than any number. -/
def exactCoordinate (x : Float) : Int :=
  match Binary.ofFloat x with
  | .finite negative mantissa exponent =>
    let size : Int := mantissa * Nat.pow 2 (exponent + 1075).toNat
    if negative then -size else size
  | .infinite negative => if negative then -Nat.pow 2 2100 else Nat.pow 2 2100
  | .nan => 0

/-- The float of a coordinate in units of `2 ^ -1075`. -/
def floatCoordinate (units : Int) : Float :=
  let size := units.natAbs
  let field := size.log2 - 52
  let unit := Nat.pow 2 52
  let bits := if size < 2 * unit then size / 2 else field * unit + (size / Nat.pow 2 field - unit)
  let x := Float.ofBits bits.toUInt64
  if units < 0 then -x else x

/-- A point with its coordinates in units of `2 ^ -1075`. -/
def Point.exact (point : Point Float) : Point Int :=
  ⟨exactCoordinate point.x, exactCoordinate point.y⟩

/-- The point whose coordinates in units of `2 ^ -1075` are given. -/
def Point.float (point : Point Int) : Point Float :=
  ⟨floatCoordinate point.x, floatCoordinate point.y⟩

/-- A box with its sides in order and in units of `2 ^ -1075`. -/
def Box.exact (box : Box Float) : Box Int :=
  let box := box.ordered
  ⟨exactCoordinate box.left, exactCoordinate box.bottom, exactCoordinate box.right,
    exactCoordinate box.top⟩

/-- A straight line from one point to another. -/
structure Edge where
  /-- Where it begins. -/
  tail : Point Int
  /-- Where it ends. -/
  head : Point Int
deriving DecidableEq, Repr

/-- Twice the area of the triangle from an edge to a point: positive on the left of the edge,
negative on the right, zero on its line. -/
def Edge.turn (edge : Edge) (p : Point Int) : Int :=
  (edge.head.x - edge.tail.x) * (p.y - edge.tail.y) -
    (edge.head.y - edge.tail.y) * (p.x - edge.tail.x)

/-- A closed line of edges.  A ring of one vertex has no edge. -/
structure Ring where
  /-- The vertices in order, the last being the first one again. -/
  vertices : List (Point Int)
  /-- The edges in order, each from where the one before ends. -/
  edges : List Edge
  /-- The inner side is the left one. -/
  insideLeft : Bool
deriving DecidableEq, Repr

namespace Ring

/-- The edges of a line through some vertices. -/
def edgesThrough : List (Point Int) → List Edge
  | first :: second :: rest => ⟨first, second⟩ :: edgesThrough (second :: rest)
  | _ => []

/-- A point comes before another one, from west to east and then from south to north. -/
def precedes (a b : Point Int) : Bool := a.x < b.x || a.x == b.x && a.y < b.y

/-- The vertices in cyclic order from the first one that no other precedes. -/
def fromLeast (vertices : List (Point Int)) : List (Point Int) :=
  match vertices.find? fun a => vertices.all fun b => !precedes b a with
  | some least =>
    vertices.dropWhile (· != least) ++ vertices.takeWhile (· != least)
  | none => []

/-- The line through the vertices of a ring turns left where it is farthest to the west. -/
def turnsLeft (vertices : List (Point Int)) : Bool :=
  match fromLeast vertices with
  | [] => false
  | least :: rest =>
    let others := rest.filter (· != least)
    match others.head?, others.getLast? with
    | some next, some previous => 0 < (Edge.mk previous least).turn next
    | _, _ => false

/-- The ring through some vertices, the last being the first one again.  A hole has its inner side
where an outline would have its outer one. -/
def ofVertices (hole : Bool) (vertices : List (Point Int)) : Ring where
  vertices
  edges := edgesThrough vertices
  insideLeft := turnsLeft vertices != hole

/-- Where the ring begins. -/
def start? (ring : Ring) : Option (Point Int) := ring.vertices.head?

/-- The edges with a length. -/
def sides (ring : Ring) : List Edge := ring.edges.filter fun edge => edge.tail != edge.head

end Ring

/-- A polygon as its rings of edges. -/
structure Figure where
  /-- The outline. -/
  outline : Ring
  /-- The holes. -/
  holes : List Ring
deriving DecidableEq, Repr

/-- What the vertices of an outline make up. -/
inductive Extension where
  /-- At most one point. -/
  | point
  /-- Two points. -/
  | line
  /-- Three points or more, be it on one line. -/
  | area
deriving DecidableEq, Repr

/-- What some vertices make up. -/
def Extension.ofVertices : List (Point Int) → Extension
  | [] => .point
  | first :: rest =>
    match rest.find? (· != first) with
    | none => .point
    | some second =>
      if rest.any fun third => third != first && third != second then .area else .line

namespace Figure

/-- The rings of a polygon. -/
def ofPolygon (polygon : Polygon Float) : Figure where
  outline := .ofVertices false (polygon.outline.map Point.exact)
  holes := polygon.holes.map fun hole => .ofVertices true (hole.map Point.exact)

/-- All rings. -/
def rings (figure : Figure) : List Ring := figure.outline :: figure.holes

/-- What the outline makes up. -/
def extension (figure : Figure) : Extension := .ofVertices figure.outline.vertices

end Figure

end ZGrid
