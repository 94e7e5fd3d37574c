import ZGrid.Config.Properties
import ZGrid.KeyRange
import ZGrid.Log

/-!
# Handler — what an index does for a table

A handler turns the source columns of a row into the text of its index column, and the text of a
query into the ranges of keys that a scan has to read.  It comes from a **factory**, which is given
the name of the handler and the properties of the table.
-/

namespace ZGrid

/-- The value of a source column. -/
inductive ColumnValue where
  /-- A whole number of 64 bits. -/
  | long (value : Int64)
  /-- A whole number of 32 bits. -/
  | int (value : Int32)
  /-- A float. -/
  | double (value : Float)
  /-- A text. -/
  | text (value : String)
  /-- No value. -/
  | null

namespace ColumnValue

/-- The name of the type. -/
def typeName : ColumnValue → String
  | long _ => "long"
  | int _ => "int"
  | double _ => "double"
  | text _ => "string"
  | null => "null"

/-- The value inside a message. -/
def toText : ColumnValue → String
  | long value => s!"{value}"
  | int value => s!"{value}"
  | double value => numberText value
  | text value => value
  | null => "null"

end ColumnValue

/-- An index of a table. -/
structure Handler where
  /-- The name of the index column. -/
  name : String
  /-- The names of the columns that a row's index value is made from. -/
  sourceColumns : List String
  /-- The index value of a row. -/
  generate : List ColumnValue → Attempt String
  /-- The ranges of keys that answer a query. -/
  query : String → Attempt (List KeyRange)

/-- A way to make handlers of one type. -/
abbrev Factory := (name : String) → Properties → Attempt Handler

end ZGrid
