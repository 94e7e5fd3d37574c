import ZGrid.Json.Scan
import ZGrid.Number.Style

/-!
# Error — why a request is refused

An error is its cause with the values that belong to it; the wording is one function of the cause.
Three families of causes have a type each: a **configuration** that cannot be used, an **input**
that is malformed, and a **document** that does not hold what is asked for.
-/

namespace ZGrid

/-- A coordinate axis. -/
inductive Axis where
  /-- The axis of the rows. -/
  | longitude
  /-- The axis of the columns. -/
  | latitude
deriving DecidableEq, Repr

namespace Axis

/-- The name inside a sentence. -/
def name : Axis → String
  | longitude => "longitude"
  | latitude => "latitude"

/-- The name at the start of a sentence. -/
def title : Axis → String
  | longitude => "Longitude"
  | latitude => "Latitude"

/-- The text of the largest coordinate of an axis. -/
def limitText : Axis → String
  | longitude => "180.0"
  | latitude => "90.0"

end Axis

/-! ## Configurations -/

/-- What is wrong with a configuration. -/
inductive ConfigFault where
  /-- No handler is declared. -/
  | undeclared
  /-- The handler is not among those declared. -/
  | notDeclared (handler : String)
  /-- A property is absent or blank. -/
  | absent (key : String)
  /-- The handler is of another type. -/
  | otherType (key found : String)
  /-- A property is no number. -/
  | notNumeric (key found : String)
  /-- A property is no whole number. -/
  | notInteger (key found : String)
  /-- Other than two source columns. -/
  | columnCount (count : Nat)
  /-- Other than two source column types. -/
  | columnTypeCount (count : Nat)
  /-- A source column type that cannot be indexed. -/
  | columnType (found : String)
  /-- A data type that the index column cannot have. -/
  | dataType (found : String)
  /-- A parameter that is no finite number. -/
  | notFinite (parameter : String) (found : Float)
  /-- The origin lies on a pole or beyond. -/
  | originLatitude (found : Float)
  /-- The cell edge has no length. -/
  | gridSize (found : Float)
  /-- The fixed-point scale is not positive. -/
  | conversionRatio (found : Int64)
  /-- The bounds of an axis are not in strict order. -/
  | bounds (axis : Axis) (least greatest : Float)
  /-- A cell has no usable extent in degrees. -/
  | cellSize (deltaX deltaY : Float)
  /-- The box has more cells along an axis than keys can number. -/
  | tooFine (levels gridSize : Float)
  /-- A refusal in a handler's own words. -/
  | other (text : String)

/-- The name of the property that declares the handlers. -/
def indexHandler : String := "index_handler"

/-- The name of the handler type for Z-order grids. -/
def gridType : String := "geohash"

/-- The type of a source column. -/
def sourceColumnType : String := "bigint"

/-- The type of the index column. -/
def targetType : String := "long"

/-- The number of halvings of the finest grid. -/
def maxLevel : Nat := 26

/-- A float inside a message. -/
def numberText (x : Float) : String := Style.plain.text x

namespace ConfigFault

/-- The wording. -/
def message : ConfigFault → String
  | undeclared => s!"{indexHandler} property is invalid."
  | notDeclared handler => s!"{indexHandler} property is invalid. {handler} is not present."
  | absent key => s!"{key} property must be specified."
  | otherType key found => s!"{key} property must be {gridType} for this handler, got: {found}"
  | notNumeric key found => s!"{key} property must be numeric, got: {found}"
  | notInteger key found => s!"{key} property must be an integer, got: {found}"
  | columnCount count => s!"sourcecolumns must name exactly 2 columns, got {count}"
  | columnTypeCount count => s!"sourcecolumntypes must list exactly 2 types, got {count}"
  | columnType found => s!"source column types must be {sourceColumnType}, got: {found}"
  | dataType found => s!"datatype must be {targetType}, got: {found}"
  | notFinite parameter found => s!"{parameter} must be finite, got: {numberText found}"
  | originLatitude found => s!"originlatitude must be inside (-90, 90), got: {numberText found}"
  | gridSize found => s!"gridsize must be greater than zero, got: {numberText found}"
  | conversionRatio found => s!"conversionratio must be greater than zero, got: {found}"
  | bounds axis least greatest =>
    s!"min {axis.name} ({numberText least}) must be < max {axis.name} ({numberText greatest})"
  | cellSize deltaX deltaY =>
    s!"grid deltas must be positive and finite, got: ({numberText deltaX}, {numberText deltaY})"
  | tooFine levels size =>
    s!"bounding box spans 2^{numberText levels} cells per axis at grid size {numberText size}m; " ++
      s!"at most 2^{maxLevel} is supported"
  | other text => text

end ConfigFault

/-! ## Inputs -/

/-- What is wrong with a point. -/
inductive PointFault where
  /-- A coordinate is no finite number. -/
  | notFinite (axis : Axis) (found : Float)
  /-- A coordinate lies off the globe. -/
  | outOfRange (axis : Axis) (found : Float)

namespace PointFault

/-- The wording. -/
def message : PointFault → String
  | notFinite axis found => s!"{axis.title} must be finite, got: {numberText found}"
  | outOfRange axis found =>
    s!"{axis.title} out of range [-{axis.limitText}, {axis.limitText}]: {numberText found}"

end PointFault

/-- What is wrong with the input of one call. -/
inductive InputFault where
  /-- A point is none on the globe. -/
  | point (fault : PointFault)
  /-- A vertex of a list is none on the globe. -/
  | vertex (index : Nat) (fault : PointFault)
  /-- Too few vertices for a polygon. -/
  | tooFewPoints (count : Nat)
  /-- A vertex in a text has other than two fields. -/
  | fieldCount (index : Nat) (found : String)
  /-- A field of a vertex in a text is no number. -/
  | notNumeric (index : Nat) (found : String)
  /-- A vertex of a polygon is no point. -/
  | vertexNotFinite (x y : Float)
  /-- Too few different vertices for a polygon. -/
  | tooFewDistinct (count : Nat)
  /-- A polygon without any vertex. -/
  | noVertices
  /-- A text that is no geographic document. -/
  | noGeoJson
  /-- A feature without a geometry. -/
  | noGeometry
  /-- Several features. -/
  | featureCollection
  /-- A geometry that is no polygon. -/
  | notPolygon
  /-- A polygon without an outline. -/
  | noRing
  /-- A polygon with holes. -/
  | holes (count : Nat)
  /-- Degrees that are no finite numbers. -/
  | degreesNotFinite (longitude latitude : Float)
  /-- Other than two source values. -/
  | sourceCount (handler : String) (count : Nat)
  /-- A source value of another type. -/
  | sourceType (column found text : String)

namespace InputFault

/-- The wording. -/
def message : InputFault → String
  | point fault => fault.message
  | vertex index fault => s!"Point at index {index}: Invalid input: {fault.message}"
  | tooFewPoints count => s!"Polygon requires at least 3 points, got {count}"
  | fieldCount index found =>
    s!"Point at index {index} must have exactly 2 coordinates, got: '{found}'"
  | notNumeric index found =>
    s!"Point at index {index} has a non-numeric coordinate: '{found}'"
  | vertexNotFinite x y =>
    s!"Polygon vertex must be finite, got: ({numberText x}, {numberText y})"
  | tooFewDistinct count => s!"Polygon requires at least 3 distinct vertices, got {count}"
  | noVertices => "Polygon has no vertices"
  | noGeoJson => "Failed to parse GeoJSON"
  | noGeometry => "GeoJSON feature has no geometry"
  | featureCollection => "GeoJSON FeatureCollection is not a single polygon"
  | notPolygon => "GeoJSON geometry is not a Polygon"
  | noRing => "Polygon must have at least one ring"
  | holes count => s!"Polygon holes are not supported, got {count} interior rings"
  | degreesNotFinite longitude latitude =>
    s!"Coordinates must be finite, got: ({numberText longitude}, {numberText latitude})"
  | sourceCount handler count => s!"Expected 2 source values for '{handler}', got {count}"
  | sourceType column found text =>
    s!"Source column '{column}' must be a long value, got {found}: {text}"

end InputFault

/-! ## Documents -/

namespace Json.Fault

/-- A name between back quotes. -/
def quoted (name : String) : String := "`" ++ name ++ "`"

/-- The wording. -/
def message : Json.Fault → String
  | malformed => "malformed document"
  | missing member => s!"missing field {quoted member}"
  | unknown member expected =>
    s!"unknown field {quoted member}, expected one of " ++ ", ".intercalate (expected.map quoted)
  | duplicate member => s!"duplicate field {quoted member}"

end Json.Fault

/-! ## All errors -/

/-- Why a request is refused. -/
inductive Error where
  /-- The configuration cannot be used. -/
  | config (fault : ConfigFault)
  /-- The input of one call is malformed. -/
  | invalidInput (fault : InputFault)
  /-- The size of a cell along an axis cannot be divided by. -/
  | arithmetic (axis : Axis) (delta : Float)
  /-- The point lies before the first row or the first column. -/
  | outOfDomain (row column : Int64)
  /-- No handler type has this name. -/
  | unknownHandler (type : String)
  /-- The document does not hold what is asked for. -/
  | serialization (fault : Json.Fault)

namespace Error

/-- The wording. -/
def message : Error → String
  | config fault => s!"Configuration error: {fault.message}"
  | invalidInput fault => s!"Invalid input: {fault.message}"
  | arithmetic axis delta => s!"Arithmetic error: {axis.name} delta is {numberText delta}"
  | outOfDomain row column => s!"Point outside grid domain: row={row}, column={column}"
  | unknownHandler type => s!"Unknown index handler type: {type}"
  | serialization fault => s!"Serialization error: {fault.message}"

end Error

end ZGrid
