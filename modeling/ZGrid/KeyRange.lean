import ZGrid.Curve

/-!
# KeyRange — a closed run of keys

A range `[start, stop]` holds every key from `start` to `stop`, both included, so it always holds
at least one as long as `start ≤ stop`.  That order is what callers promise: a range may be read
from a document, and a reversed one is kept as it was written.
-/

namespace ZGrid

/-- The keys from `start` to `stop`, both included. -/
structure KeyRange where
  /-- The first key. -/
  start : Key
  /-- The last key. -/
  stop : Key
deriving DecidableEq, Repr, Inhabited

namespace KeyRange

/-- The range of one key. -/
def single (key : Key) : KeyRange := ⟨key, key⟩

/-- A key between the two ends. -/
def contains (range : KeyRange) (key : Key) : Bool := range.start ≤ key && key ≤ range.stop

/-- The number of keys, for ends in order and fewer than `2 ^ 64` keys. -/
def size (range : KeyRange) : UInt64 := range.stop - range.start + 1

/-- A range of one key. -/
def isSingle (range : KeyRange) : Bool := range.start == range.stop

/-- The ends stand in order. -/
def Ordered (range : KeyRange) : Prop := range.start ≤ range.stop

instance (range : KeyRange) : Decidable range.Ordered := inferInstanceAs (Decidable (_ ≤ _))

instance : Membership Key KeyRange := ⟨fun range key => range.start ≤ key ∧ key ≤ range.stop⟩

theorem mem_def {key : Key} {range : KeyRange} :
    key ∈ range ↔ range.start ≤ key ∧ key ≤ range.stop := Iff.rfl

@[simp] theorem contains_iff_mem {range : KeyRange} {key : Key} :
    range.contains key = true ↔ key ∈ range := by
  simp [contains, mem_def]

end KeyRange

end ZGrid
