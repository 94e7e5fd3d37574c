import ZGrid.Config
import ZGrid.Grid
import ZGrid.RangeTree

/-!
# Grid/Derive — the grid of a configuration

The cells are as long and as wide as the configuration says, in meters on a sphere.  A degree of
latitude has the same length everywhere; a degree of longitude shrinks with the cosine of the
latitude, which is taken at the origin.  The box is then padded to the least square of
`2 ^ level` by `2 ^ level` cells that is large enough.
-/

namespace ZGrid

/-- The two functions of the real numbers that a grid needs. -/
structure Elementary where
  /-- The cosine of an angle in radians. -/
  cos : Float → Float
  /-- The logarithm to the base two. -/
  log2 : Float → Float

/-- The functions of the machine. -/
def Elementary.machine : Elementary := ⟨Float.cos, Float.log2⟩

/-- Half the circumference of the unit circle. -/
def halfCircle : Float := 3.14159265358979323846

/-- The radius of the earth in meters. -/
def earthRadius : Float := 6371004

/-- An angle in radians. -/
def radians (degrees : Float) : Float := degrees * (halfCircle / 180)

/-- The degrees that a cell spans along each axis. -/
def cellDegrees (elementary : Elementary) (gridSize originLatitude : Float) : Point Float :=
  let cos := elementary.cos (radians originLatitude)
  let height := gridSize * 360 / (2 * halfCircle * earthRadius)
  ⟨height / cos, height⟩

/-- The cosine of the latitude at which longitudes are measured. -/
def Config.cosOrigin (elementary : Elementary) (config : Config) : Float :=
  elementary.cos (radians config.originLatitude)

/-- The words for why a point has no key. -/
def GridFault.toError : GridFault Float → Error
  | notFinite longitude latitude => .invalidInput (.degreesNotFinite longitude latitude)
  | delta axis found => .arithmetic axis found
  | outOfDomain row column => .outOfDomain row column

namespace Grid

/-- The least number of halvings for a box of some cells along each axis, not rounded down at
zero. -/
def levels (elementary : Elementary) (columns rows : Float) : Float :=
  let x := elementary.log2 columns
  let y := elementary.log2 rows
  Float64.ceil (if x < y then y else x)

/-- The grid of a configuration. -/
def derive (elementary : Elementary) (config : Config) : Except Error (Grid Float) := do
  config.validate
  let delta := cellDegrees elementary config.gridSize config.originLatitude
  if delta.x ≤ 0 || delta.y ≤ 0 || !Float64.isFinite delta.x || !Float64.isFinite delta.y then
    throw (.config (.cellSize delta.x delta.y))
  let levels := levels elementary ((config.maxLongitude - config.minLongitude) / delta.x)
    ((config.maxLatitude - config.minLatitude) / delta.y)
  if levels > Float.ofNat maxLevel then throw (.config (.tooFine levels config.gridSize))
  return {
    origin := ⟨config.minLongitude, config.minLatitude⟩
    delta
    ratio := config.conversionRatio
    level := (Float64.floor levels).toNatClampNeg }

/-- The grid of a configuration, worked out with the functions of the machine. -/
def ofConfig (config : Config) : Attempt (Grid Float) := do
  let grid ← derive .machine config
  Attempt.tell (.gridDerived grid.level grid.delta grid.bounds)
  return grid

/-- The grid with no cell selected. -/
def rangeTree {α : Type} [Degrees α] (grid : Grid α) : RangeTree α := .empty grid.bounds grid.level

/-- A result without the events of a log, its fault put into words. -/
def lift {β : Type} (result : Except (GridFault Float) β) : Attempt β :=
  Attempt.ofExcept (result.mapError GridFault.toError)

/-- The key of a point, with a warning if it is that of another cell as well. -/
def encodePoint (grid : Grid Float) (longitude latitude : Int64) : Attempt Key := do
  let (row, column) ← lift (grid.locate longitude latitude)
  if grid.isAliased row column then
    Attempt.tell (.pointAliased longitude latitude row column grid.limit)
  return grid.key row column

/-- The key of the point at some degrees, with a warning if it is that of another cell as well. -/
def encodeAt (grid : Grid Float) (longitude latitude : Float) : Attempt Key := do
  let (longitude, latitude) ← lift (grid.fixedPoint longitude latitude)
  grid.encodePoint longitude latitude

end Grid

end ZGrid
