import ZGrid.KeyRange

/-!
# KeyRange/Search — where a key stands in a sorted list of ranges

A look-up narrows an interval `[low, high)` of indices: what lies before `low` ends below the key,
what lies from `high` on starts above it.  It ends on the range that holds the key, or on an empty
interval, and then the two neighbours of that gap are the answer.
-/

namespace ZGrid.KeyRange

/-- The place of a key in a list of ranges. -/
inductive Lookup where
  /-- The range at this index holds the key. -/
  | found (index : Nat)
  /-- No range holds the key; the indices are those of the last range before it and of the first
  range after it. -/
  | between (below above : Option Nat)
deriving DecidableEq, Repr

namespace Lookup

/-- The key is held. -/
def isFound : Lookup → Bool
  | found _ => true
  | between _ _ => false

/-- The index at which a range that holds the key would be inserted. -/
def insertionPoint : Lookup → Option Nat
  | found _ => none
  | between none _ => some 0
  | between (some below) _ => some (below + 1)

/-- The answer for a key that falls before index `position` of `size` ranges. -/
def gap (position size : Nat) : Lookup :=
  between (if position = 0 then none else some (position - 1))
    (if position < size then some position else none)

@[simp] theorem insertionPoint_gap (position size : Nat) :
    (gap position size).insertionPoint = some position := by
  cases position <;> simp [gap, insertionPoint]

end Lookup

/-- The place of a key among the indices `[low, high)`. -/
def searchBetween (ranges : Array KeyRange) (key : Key) (low high : Nat)
    (bound : high ≤ ranges.size) : Lookup :=
  if order : low < high then
    let middle := low + (high - low) / 2
    have : middle < ranges.size := by omega
    if key < ranges[middle].start then
      searchBetween ranges key low middle (by omega)
    else if ranges[middle].stop < key then
      searchBetween ranges key (middle + 1) high bound
    else
      .found middle
  else
    .gap low ranges.size
termination_by high - low

/-- The place of a key in a sorted array of disjoint ranges. -/
def search (ranges : Array KeyRange) (key : Key) : Lookup :=
  searchBetween ranges key 0 ranges.size (Nat.le_refl _)

end ZGrid.KeyRange
