import ZGrid.KeyRange

/-!
# KeyRange/Merge — one list for one set of keys

A list of ranges is put into its shortest form in two steps: it is sorted on the starts, and then
each range is fused with the next one while the two overlap or touch:

```
   [0,3] [4,7] [9,9] [10,12]      ⟶      [0,7] [9,12]
```

Two ranges **touch** when the second starts at most one past the end of the first.  The test is
made over the naturals, so a range that ends at the last key touches everything after its start.
-/

namespace ZGrid.KeyRange

/-- The ranges in ascending order of their starts, equal starts in the order given. -/
def sortAscending (ranges : List KeyRange) : List KeyRange :=
  ranges.mergeSort fun a b => a.start ≤ b.start

/-- No key lies between the end of the first range and the start of the second. -/
def touches (current next : KeyRange) : Bool := next.start.toNat ≤ current.stop.toNat + 1

/-- The range from the start of the first to the larger of the two ends. -/
def fuse (current next : KeyRange) : KeyRange := ⟨current.start, max current.stop next.stop⟩

/-- The fused form of a sorted list behind a range that may still grow. -/
def mergeInto (current : KeyRange) : List KeyRange → List KeyRange
  | [] => [current]
  | next :: rest =>
    if touches current next then mergeInto (fuse current next) rest
    else current :: mergeInto next rest

/-- The ranges of a sorted list with touching neighbours fused. -/
def mergeAdjacent : List KeyRange → List KeyRange
  | [] => []
  | first :: rest => mergeInto first rest

@[simp] theorem mergeAdjacent_nil : mergeAdjacent [] = [] := rfl

@[simp] theorem mergeAdjacent_singleton (range : KeyRange) : mergeAdjacent [range] = [range] := rfl

end ZGrid.KeyRange
