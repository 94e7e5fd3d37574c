import ZGrid.Error
import ZGrid.Plane.Box

/-!
# Query/Vertices — points on the globe

A vertex of a query is a longitude from -180 to 180 and a latitude from -90 to 90.  Both being
finite comes before either being in range, and the longitude before the latitude.
-/

namespace ZGrid

/-- The largest coordinate of an axis; its negative is the least one. -/
def Axis.limit : Axis → Float
  | .longitude => 180
  | .latitude => 90

/-- A coordinate between the limits of its axis. -/
def Axis.admits (axis : Axis) (x : Float) : Bool := -axis.limit ≤ x && x ≤ axis.limit

namespace Point

/-- The first reason why a point is none on the globe. -/
def fault? (point : Point Float) : Option PointFault :=
  if !Float64.isFinite point.x then some (.notFinite .longitude point.x)
  else if !Float64.isFinite point.y then some (.notFinite .latitude point.y)
  else if !Axis.longitude.admits point.x then some (.outOfRange .longitude point.x)
  else if !Axis.latitude.admits point.y then some (.outOfRange .latitude point.y)
  else none

/-- A point on the globe. -/
def check (point : Point Float) : Except Error Unit :=
  match point.fault? with
  | some fault => .error (.invalidInput (.point fault))
  | none => .ok ()

end Point

namespace Query

/-- The first vertex that is no point on the globe, vertices being counted from an index. -/
def vertexFault? (index : Nat) : List (Point Float) → Option InputFault
  | [] => none
  | vertex :: rest =>
    match vertex.fault? with
    | some fault => some (.vertex index fault)
    | none => vertexFault? (index + 1) rest

/-- At least three vertices, all on the globe. -/
def checkVertices (vertices : List (Point Float)) : Except Error Unit :=
  if vertices.length < 3 then .error (.invalidInput (.tooFewPoints vertices.length))
  else
    match vertexFault? 0 vertices with
    | some fault => .error (.invalidInput fault)
    | none => .ok ()

end Query

end ZGrid
