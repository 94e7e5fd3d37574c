import ZGrid.Grid.Derive
import ZGrid.Handler
import ZGrid.Query.GeoJson
import ZGrid.Query.Text

/-!
# GridIndex — rows and queries on one grid

A grid index is a handler whose index values are the keys of grid cells.  A row gives a longitude
and a latitude; a query gives a polygon, as vertices, as a text or as a geographic document, and is
answered by the ranges of all cells whose centres it touches:

```
   vertices  ─checked→  polygon  ─placed in an empty tree→  blocks  ─sorted, merged→  ranges
```

A polygon that reaches past the grid or does not touch it selects nothing.
-/

namespace ZGrid

/-- An index on a grid. -/
structure GridIndex where
  /-- The name of the index column. -/
  name : String
  /-- The parameters. -/
  config : Config
  /-- The grid of the parameters. -/
  grid : Grid Float

namespace GridIndex

/-- The index with the given parameters. -/
def ofConfig (name : String) (config : Config) : Attempt GridIndex := do
  return ⟨name, config, ← Grid.ofConfig config⟩

/-- The index that a table declares under a name. -/
def ofProperties (name : String) (properties : Properties) : Attempt GridIndex := do
  ofConfig name (← Config.ofProperties name properties)

/-! ## Queries -/

/-- The polygon of a query. -/
def polygon (vertices : List (Point Float)) : Except Error (Polygon Float) := do
  Query.checkVertices vertices
  Polygon.ofVertices vertices

/-- The ranges of the cells that a polygon touches. -/
def queryPolygon (index : GridIndex) (vertices : List (Point Float)) :
    Attempt (List KeyRange) := do
  match polygon vertices with
  | .error error =>
    Attempt.tell (.queryRejected index.name error)
    throw error
  | .ok polygon =>
    let (placed, tree) ← index.grid.rangeTree.insert polygon
    if placed then
      let ranges := tree.ranges
      Attempt.tell (.queryAnswered index.name vertices.length tree.size ranges.length)
      return ranges
    else
      Attempt.tell (.queryEmpty index.name)
      return []

/-- The ranges of the polygon that a text describes. -/
def queryText (index : GridIndex) (text : String) : Attempt (List KeyRange) := do
  index.queryPolygon (← Query.ofText text)

/-- The ranges of the polygon that a geographic document holds. -/
def queryGeoJson (index : GridIndex) (text : String) : Attempt (List KeyRange) := do
  index.queryPolygon (← GeoJson.verticesOfText text)

/-! ## Rows -/

/-- The whole number in a source column. -/
def sourceValue (column : String) : ColumnValue → Except Error Int64
  | .long value => .ok value
  | other => .error (.invalidInput (.sourceType column other.typeName other.toText))

/-- The name of a source column. -/
def columnName (index : GridIndex) (position : Nat) : String :=
  index.config.sourceColumns.getD position ""

/-- The index value of a row. -/
def generate (index : GridIndex) : List ColumnValue → Attempt String
  | [first, second] => do
    let longitude ← sourceValue (index.columnName 0) first
    let latitude ← sourceValue (index.columnName 1) second
    let key ← index.grid.encodePoint longitude latitude
    return s!"{key}"
  | sources => throw (.invalidInput (.sourceCount index.name sources.length))

/-- The index as a handler. -/
def handler (index : GridIndex) : Handler where
  name := index.name
  sourceColumns := index.config.sourceColumns
  generate := index.generate
  query := index.queryText

/-- The factory of grid indexes. -/
def factory : Factory := fun name properties => do
  return (← ofProperties name properties).handler

end GridIndex

end ZGrid
