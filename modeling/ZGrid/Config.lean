import ZGrid.Error
import ZGrid.Text.Lowercase

/-!
# Config — the parameters of a grid index

A configuration names a box on the globe, the edge length of a cell in meters, the scale of the
fixed-point coordinates, and the columns of the table that is indexed.  It is usable when none of
its faults is found; they are looked for in a fixed order, columns before numbers.
-/

namespace ZGrid

/-- The parameters of a grid index. -/
structure Config where
  /-- The latitude whose cosine scales the width of a cell. -/
  originLatitude : Float
  /-- The western side of the box. -/
  minLongitude : Float
  /-- The eastern side of the box. -/
  maxLongitude : Float
  /-- The southern side of the box. -/
  minLatitude : Float
  /-- The northern side of the box. -/
  maxLatitude : Float
  /-- The edge length of a cell in meters. -/
  gridSize : Float
  /-- The factor from degrees to the whole numbers of the source columns. -/
  conversionRatio : Int64
  /-- The names of the source columns. -/
  sourceColumns : List String := ["longitude", "latitude"]
  /-- The types of the source columns. -/
  sourceColumnTypes : List String := [sourceColumnType, sourceColumnType]
  /-- The type of the index column. -/
  dataType : String := targetType

namespace Config

/-- The configuration with other source columns. -/
def withSourceColumns (config : Config) (longitude latitude : String) : Config :=
  { config with sourceColumns := [longitude, latitude] }

/-- The numbers that have to be finite, by their property names. -/
def parameters (config : Config) : List (String × Float) := [
  ("originlatitude", config.originLatitude),
  ("minlongitude", config.minLongitude),
  ("maxlongitude", config.maxLongitude),
  ("minlatitude", config.minLatitude),
  ("maxlatitude", config.maxLatitude),
  ("gridsize", config.gridSize)]

/-- The first fault of the columns. -/
def columnFault? (config : Config) : Option ConfigFault :=
  if config.sourceColumns.length ≠ 2 then some (.columnCount config.sourceColumns.length)
  else if config.sourceColumnTypes.length ≠ 2 then
    some (.columnTypeCount config.sourceColumnTypes.length)
  else
    match config.sourceColumnTypes.find? fun type => !Text.sameLetters type sourceColumnType with
    | some type => some (.columnType type)
    | none =>
      if Text.sameLetters config.dataType targetType then none else some (.dataType config.dataType)

/-- The first fault of the numbers. -/
def numberFault? (config : Config) : Option ConfigFault :=
  match config.parameters.find? fun (_, value) => !Float64.isFinite value with
  | some (name, value) => some (.notFinite name value)
  | none =>
    if config.originLatitude ≤ -90 || config.originLatitude ≥ 90 then
      some (.originLatitude config.originLatitude)
    else if config.gridSize ≤ 0 then some (.gridSize config.gridSize)
    else if config.conversionRatio ≤ 0 then some (.conversionRatio config.conversionRatio)
    else if config.minLongitude ≥ config.maxLongitude then
      some (.bounds .longitude config.minLongitude config.maxLongitude)
    else if config.minLatitude ≥ config.maxLatitude then
      some (.bounds .latitude config.minLatitude config.maxLatitude)
    else none

/-- The first fault, if there is one. -/
def fault? (config : Config) : Option ConfigFault :=
  config.columnFault? <|> config.numberFault?

/-- A configuration that has no fault. -/
def validate (config : Config) : Except Error Unit :=
  match config.fault? with
  | some fault => .error (.config fault)
  | none => .ok ()

end Config

end ZGrid
