import ZGrid.KeyRange.Merge
import ZGrid.KeyRange.Search

/-!
# RangeSet — a set of keys as a list of ranges

A range set that is built from ranges is in **normal form**: ascending, disjoint, and with at
least one key missing between neighbours.  A look-up is then a binary search.  A set that is read
from a document is taken as it stands there.
-/

namespace ZGrid

/-- A set of keys, as an array of ranges. -/
structure RangeSet where
  /-- The ranges in the order in which a look-up reads them. -/
  ranges : Array KeyRange
deriving DecidableEq, Repr

namespace RangeSet

/-- The set with no keys. -/
def empty : RangeSet := ⟨#[]⟩

instance : Inhabited RangeSet := ⟨empty⟩

/-- The set of the keys that some range holds, in normal form. -/
def ofList (ranges : List KeyRange) : RangeSet :=
  ⟨(KeyRange.mergeAdjacent (KeyRange.sortAscending ranges)).toArray⟩

/-- The ranges in order. -/
def toList (set : RangeSet) : List KeyRange := set.ranges.toList

/-- The number of ranges. -/
def size (set : RangeSet) : Nat := set.ranges.size

/-- No range. -/
def isEmpty (set : RangeSet) : Bool := set.ranges.isEmpty

/-- The place of a key among the ranges. -/
def search (set : RangeSet) (key : Key) : KeyRange.Lookup := KeyRange.search set.ranges key

/-- The look-up finds the key. -/
def contains (set : RangeSet) (key : Key) : Bool := (set.search key).isFound

/-- The number of keys that the ranges hold. -/
def keyCount (set : RangeSet) : UInt64 := set.ranges.foldl (fun count range => count + range.size) 0

@[simp] theorem toList_ofList (ranges : List KeyRange) :
    (ofList ranges).toList = KeyRange.mergeAdjacent (KeyRange.sortAscending ranges) := by
  simp [ofList, toList]

@[simp] theorem toList_empty : empty.toList = [] := rfl

end RangeSet

end ZGrid
