import ZGrid.Json.Value
import ZGrid.Query.Vertices

/-!
# Query/GeoJson — polygons in geographic documents

A geographic document is an object whose member `type` says what it is: one of seven kinds of
geometry, a feature, which wraps a geometry, or a collection of features.  All of it has to be well
formed, whether it is used or not.  A query is a polygon without holes, by itself or as a feature.
-/

namespace ZGrid.GeoJson

/-- What a query can tell of a geometry. -/
inductive Geometry where
  /-- The rings of a polygon, outline first. -/
  | polygon (rings : List (List (Point Float)))
  /-- A geometry of another kind. -/
  | other
deriving Repr

/-- What a geographic document is. -/
inductive Document where
  /-- A geometry. -/
  | geometry (geometry : Geometry)
  /-- A geometry with properties, or properties alone. -/
  | feature (geometry : Option Geometry)
  /-- Several features. -/
  | collection
deriving Repr

/-! ## Coordinates -/

/-- A number. -/
def number? : Json → Option Float
  | .number numeral => some numeral.toFloat
  | _ => none

/-- A list of values of one kind. -/
def list? {α : Type} (item? : Json → Option α) : Json → Option (List α)
  | .list items => items.mapM item?
  | _ => none

/-- A point: two numbers, and perhaps more behind them. -/
def position? (value : Json) : Option (Point Float) :=
  match list? number? value with
  | some (x :: y :: _) => some ⟨x, y⟩
  | _ => none

/-! ## Members -/

/-- The kind that an object says it is. -/
def kind? (members : List (String × Json)) : Option String :=
  match Json.find? members "type" with
  | some (.string kind) => some kind
  | _ => none

/-- A bounding box, which may be left out or be `null`, is a list of numbers. -/
def hasBounds (members : List (String × Json)) : Bool :=
  match Json.find? members "bbox" with
  | none | some .null => true
  | some value => (list? number? value).isSome

/-- Properties, which may be left out or be `null`, are an object. -/
def hasProperties (members : List (String × Json)) : Bool :=
  match Json.find? members "properties" with
  | none | some .null | some (.object _) => true
  | some _ => false

/-- A name, which may be left out, is a string or a number. -/
def hasName (members : List (String × Json)) : Bool :=
  match Json.find? members "id" with
  | none | some (.string _) | some (.number _) => true
  | some _ => false

/-! ## Documents -/

/-- The geometry of the coordinates of a kind. -/
def ofCoordinates? (kind : String) (coordinates : Json) : Option Geometry :=
  match kind with
  | "Point" => (position? coordinates).map fun _ => .other
  | "MultiPoint" | "LineString" => (list? position? coordinates).map fun _ => .other
  | "Polygon" => (list? (list? position?) coordinates).map .polygon
  | "MultiLineString" => (list? (list? position?) coordinates).map fun _ => .other
  | "MultiPolygon" => (list? (list? (list? position?)) coordinates).map fun _ => .other
  | _ => none

/-- The geometry of an object, collections nesting at most to a depth. -/
def readGeometry : (depth : Nat) → Json → Option Geometry
  | 0, _ => none
  | depth + 1, .object members => do
    guard (hasBounds members)
    let kind ← kind? members
    if kind = "GeometryCollection" then
      let _ ← list? (readGeometry depth) (← Json.find? members "geometries")
      return .other
    else ofCoordinates? kind (← Json.find? members "coordinates")
  | _, _ => none

/-- The geometry of a feature: an object, or `null` for none. -/
def readFeature : Json → Option (Option Geometry)
  | .object members => do
    guard (kind? members = some "Feature" && hasBounds members && hasProperties members &&
      hasName members)
    match ← Json.find? members "geometry" with
    | .null => return none
    | value => return some (← readGeometry 128 value)
  | _ => none

/-- The document of a value. -/
def readDocument (value : Json) : Option Document :=
  match value with
  | .object members =>
    match kind? members with
    | some "Feature" => (readFeature value).map .feature
    | some "FeatureCollection" => do
      guard (hasBounds members)
      let _ ← list? readFeature (← Json.find? members "features")
      return .collection
    | _ => (readGeometry 128 value).map .geometry
  | _ => none

/-! ## Queries -/

/-- The outline of a polygon without holes. -/
def outline : Geometry → Except Error (List (Point Float))
  | .polygon [] => .error (.invalidInput .noRing)
  | .polygon [ring] => do
    Query.checkVertices ring
    return ring
  | .polygon (_ :: holes) => .error (.invalidInput (.holes holes.length))
  | .other => .error (.invalidInput .notPolygon)

/-- The vertices of the polygon that a document holds. -/
def vertices : Document → Except Error (List (Point Float))
  | .geometry geometry => outline geometry
  | .feature (some geometry) => outline geometry
  | .feature none => .error (.invalidInput .noGeometry)
  | .collection => .error (.invalidInput .featureCollection)

/-- The document of a text. -/
def ofText (text : String) : Except Error Document :=
  match Json.ofText? text with
  | .ok value =>
    match readDocument value with
    | some document => .ok document
    | none => .error (.invalidInput .noGeoJson)
  | .error _ => .error (.invalidInput .noGeoJson)

/-- The vertices of the polygon that a text holds. -/
def verticesOfText (text : String) : Except Error (List (Point Float)) := do
  vertices (← ofText text)

end ZGrid.GeoJson
