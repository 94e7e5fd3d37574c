import ZGrid.Config
import ZGrid.Json.Printer
import ZGrid.Json.Record

/-!
# Config/Document — configurations as documents

A configuration is written as an object of ten members, an item a line, and read from such an
object or from the list of the ten values.  The columns and the data type may be left out.  A
configuration that is read is checked as well.
-/

namespace ZGrid.Config

/-- The value of a configuration. -/
def toJson (config : Config) : Json := .object [
  ("origin_latitude", .ofFloat config.originLatitude),
  ("min_longitude", .ofFloat config.minLongitude),
  ("max_longitude", .ofFloat config.maxLongitude),
  ("min_latitude", .ofFloat config.minLatitude),
  ("max_latitude", .ofFloat config.maxLatitude),
  ("grid_size", .ofFloat config.gridSize),
  ("conversion_ratio", .ofInt config.conversionRatio.toInt),
  ("source_columns", .ofStrings config.sourceColumns),
  ("source_column_types", .ofStrings config.sourceColumnTypes),
  ("data_type", .string config.dataType)]

/-- The document of a configuration. -/
def toDocument (config : Config) : String := config.toJson.indentedText

/-- A whole number of 64 bits. -/
def readInt64 : Json.Reader Int64 := do
  return Int64.ofInt (← Json.Reader.integer Int64.minValue.toInt Int64.maxValue.toInt)

/-- The members of a configuration in order. -/
def record : Json.Record Config where
  closed := true
  members := [
    ⟨"origin_latitude", true, fun config => do
      return { config with originLatitude := ← Json.Reader.float }⟩,
    ⟨"min_longitude", true, fun config => do
      return { config with minLongitude := ← Json.Reader.float }⟩,
    ⟨"max_longitude", true, fun config => do
      return { config with maxLongitude := ← Json.Reader.float }⟩,
    ⟨"min_latitude", true, fun config => do
      return { config with minLatitude := ← Json.Reader.float }⟩,
    ⟨"max_latitude", true, fun config => do
      return { config with maxLatitude := ← Json.Reader.float }⟩,
    ⟨"grid_size", true, fun config => do
      return { config with gridSize := ← Json.Reader.float }⟩,
    ⟨"conversion_ratio", true, fun config => do
      return { config with conversionRatio := ← readInt64 }⟩,
    ⟨"source_columns", false, fun config => do
      return { config with sourceColumns := ← Json.Reader.list Json.Reader.string }⟩,
    ⟨"source_column_types", false, fun config => do
      return { config with sourceColumnTypes := ← Json.Reader.list Json.Reader.string }⟩,
    ⟨"data_type", false, fun config => do
      return { config with dataType := ← Json.Reader.string }⟩]

/-- The configuration that reading starts from: every required member is replaced. -/
def blank : Config := {
  originLatitude := 0
  minLongitude := 0
  maxLongitude := 0
  minLatitude := 0
  maxLatitude := 0
  gridSize := 0
  conversionRatio := 0 }

/-- The configuration of a document. -/
def ofDocument (text : String) : Except Error Config := do
  match Json.Reader.document (record.reader blank) text with
  | .ok config =>
    config.validate
    return config
  | .error fault => throw (.serialization fault)

end ZGrid.Config
