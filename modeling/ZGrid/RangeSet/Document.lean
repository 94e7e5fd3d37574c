import ZGrid.Json.Printer
import ZGrid.Json.Record
import ZGrid.RangeSet

/-!
# RangeSet/Document — range sets as documents

A range set is written as one line, `{"ranges":[{"start":0,"end":3}]}`, and read from such an
object or from lists in the places of objects.  The ranges are taken as they are written: they are
not brought into normal form.
-/

namespace ZGrid

/-- A whole number of 64 bits without a sign. -/
def readKey : Json.Reader Key := do
  return (← Json.Reader.integer 0 (UInt64.size - 1)).toNat.toUInt64

namespace KeyRange

/-- The value of a range. -/
def toJson (range : KeyRange) : Json :=
  .object [("start", .ofInt range.start.toNat), ("end", .ofInt range.stop.toNat)]

/-- The members of a range. -/
def record : Json.Record KeyRange where
  closed := false
  members := [
    ⟨"start", true, fun range => do return { range with start := ← readKey }⟩,
    ⟨"end", true, fun range => do return { range with stop := ← readKey }⟩]

end KeyRange

namespace RangeSet

/-- The document of a range set. -/
def toDocument (set : RangeSet) : String :=
  (Json.object [("ranges", .list (set.toList.map KeyRange.toJson))]).compactText

/-- The members of a range set. -/
def record : Json.Record RangeSet where
  closed := false
  members := [
    ⟨"ranges", true, fun _ => do
      return ⟨(← Json.Reader.list (KeyRange.record.reader ⟨0, 0⟩)).toArray⟩⟩]

/-- The range set of a document. -/
def ofDocument (text : String) : Except Json.Fault RangeSet :=
  Json.Reader.document (record.reader empty) text

end RangeSet

end ZGrid
