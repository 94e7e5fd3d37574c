import ZGrid.Config
import ZGrid.Number.Reader
import ZGrid.Text.Blank
import ZGrid.Text.Fields

/-!
# Config/Properties — configurations in the properties of a table

A table has named text properties.  One of them declares its index handlers, the others belong to
a handler each:

```
   index_handler                        mygrid
   index_handler.mygrid.type            geohash
   index_handler.mygrid.sourcecolumns   longitude,latitude
   index_handler.mygrid.gridsize        50
   …
```

Names of handlers and of properties are compared in small letters, values are taken without the
blanks around them, and a blank value counts as none.
-/

namespace ZGrid

/-- The properties of a table: names and values, each name once. -/
abbrev Properties := List (String × String)

namespace Properties

/-- The value of a name, in exactly this spelling. -/
def value? (properties : Properties) (name : String) : Option String :=
  (properties.find? (·.1 == name)).map (·.2)

/-- The names of the handlers that are declared, blank ones left out. -/
def declared? (properties : Properties) : Option (List String) :=
  (properties.value? indexHandler).map fun text =>
    ((Text.fields ',' text).map Text.trim).filter (· ≠ "")

end Properties

/-- The properties of one handler. -/
structure HandlerProperties where
  /-- What all names of the handler's properties begin with, in small letters. -/
  stem : String
  /-- The rest of each name in small letters, and the value without blanks around it. -/
  values : Properties

namespace HandlerProperties

/-- The rest of a text that begins with another one. -/
def rest? : (start text : List Char) → Option (List Char)
  | [], text => some text
  | _ :: _, [] => none
  | c :: start, d :: text => if c = d then rest? start text else none

/-- The properties of a handler among those of a table. -/
def of (handler : String) (properties : Properties) : HandlerProperties :=
  let stem := Text.lowercase s!"{indexHandler}.{handler}."
  { stem
    values := properties.filterMap fun (name, value) =>
      (rest? stem.toList (Text.lowercase name).toList).map fun rest =>
        (String.ofList rest, Text.trim value) }

/-- The full name of a property. -/
def key (properties : HandlerProperties) (name : String) : String := properties.stem ++ name

/-- The value of a property that need not be there. -/
def optional (properties : HandlerProperties) (name : String) : Option String :=
  (properties.values.value? name).filter (· ≠ "")

/-- The value of a property that has to be there. -/
def required (properties : HandlerProperties) (name : String) : Except Error String :=
  match properties.optional name with
  | some value => .ok value
  | none => .error (.config (.absent (properties.key name)))

/-- The float that a property holds. -/
def number (properties : HandlerProperties) (name : String) : Except Error Float := do
  let text ← properties.required name
  match Number.float? text.toList with
  | some value => return value
  | none => throw (.config (.notNumeric (properties.key name) text))

/-- The whole number that a property holds. -/
def integer (properties : HandlerProperties) (name : String) : Except Error Int64 := do
  let text ← properties.required name
  match Number.int64? text.toList with
  | some value => return value
  | none => throw (.config (.notInteger (properties.key name) text))

/-- The names that a property lists. -/
def names (properties : HandlerProperties) (name : String) : Except Error (List String) := do
  return (Text.fields ',' (← properties.required name)).map Text.trim

end HandlerProperties

namespace Config

/-- The handler is among those that a table declares. -/
def checkDeclared (handler : String) (properties : Properties) : Except Error Unit :=
  match (properties.value? indexHandler).map Text.trim with
  | none => .error (.config .undeclared)
  | some declared =>
    if declared = "" then .error (.config .undeclared)
    else if (Text.fields ',' declared).any fun name =>
        Text.lowercase (Text.trim name) == Text.lowercase handler then .ok ()
    else .error (.config (.notDeclared handler))

/-- The parameters that the properties of a handler hold, not yet checked. -/
def read (properties : HandlerProperties) : Except Error Config := do
  let type ← properties.required "type"
  if !Text.sameLetters type gridType then
    throw (.config (.otherType (properties.key "type") type))
  let sourceColumns ← properties.names "sourcecolumns"
  let sourceColumnTypes ← properties.names "sourcecolumntypes"
  return {
    originLatitude := ← properties.number "originlatitude"
    minLongitude := ← properties.number "minlongitude"
    maxLongitude := ← properties.number "maxlongitude"
    minLatitude := ← properties.number "minlatitude"
    maxLatitude := ← properties.number "maxlatitude"
    gridSize := ← properties.number "gridsize"
    conversionRatio := ← properties.integer "conversionratio"
    sourceColumns
    sourceColumnTypes
    dataType := (properties.optional "datatype").getD targetType }

/-- The configuration of a handler in the properties of a table. -/
def ofProperties (handler : String) (properties : Properties) : Except Error Config := do
  checkDeclared handler properties
  let config ← read (HandlerProperties.of handler properties)
  config.validate
  return config

end Config

end ZGrid
