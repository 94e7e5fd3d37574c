import ZGrid.Number.Reader
import ZGrid.Query.Vertices
import ZGrid.Text.Blank
import ZGrid.Text.Fields

/-!
# Query/Text — polygons as lists of coordinates

A polygon is written as `lon,lat;lon,lat;…`.  Blanks around numbers do not count, nor do segments
of nothing but blanks; the segments that are left are numbered from zero.  A segment that is no
pair of numbers is reported before any count or range.
-/

namespace ZGrid.Query

/-- The number in a field. -/
def readNumber (index : Nat) (field : List Char) : Except Error Float :=
  match Number.float? field with
  | some x => .ok x
  | none => .error (.invalidInput (.notNumeric index (String.ofList field)))

/-- The vertex in a segment without blanks around it. -/
def readVertex (index : Nat) (segment : List Char) : Except Error (Point Float) :=
  match (Text.fieldChars ',' segment).map Text.trimChars with
  | [longitude, latitude] => do
    return ⟨← readNumber index longitude, ← readNumber index latitude⟩
  | _ => .error (.invalidInput (.fieldCount index (String.ofList segment)))

/-- The vertices in some segments that are counted from an index. -/
def readVertices (index : Nat) : List (List Char) → Except Error (List (Point Float))
  | [] => .ok []
  | segment :: rest => do
    let vertex ← readVertex index segment
    return vertex :: (← readVertices (index + 1) rest)

/-- The segments of a text, without blanks around them, those of nothing but blanks left out. -/
def segments (text : List Char) : List (List Char) :=
  ((Text.fieldChars ';' text).map Text.trimChars).filter (· ≠ [])

/-- The vertices of the polygon that a text describes. -/
def ofText (text : String) : Except Error (List (Point Float)) := do
  let vertices ← readVertices 0 (segments text.toList)
  checkVertices vertices
  return vertices

end ZGrid.Query
