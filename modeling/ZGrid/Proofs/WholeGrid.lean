import ZGrid.Proofs.AliasedKeys

/-!
# Proofs/WholeGrid — a query over the whole grid

A region that takes in the box of a grid selects it at once, as one full block, and the query is
answered with one range:

```
   ┌───────────┐
   │           │
   │   full    │        0 ──────── 4 ^ L - 1
   │           │
   └───────────┘
```
-/

namespace ZGrid

open KeyRange

/-! ## Regions that take in a box -/

/-- The region takes in a whole box. -/
structure Region.TakesIn (region : Region Float) (box : Box Float) : Prop where
  /-- No point of the box is outside. -/
  covers : region.covers box = true
  /-- The centre is inside. -/
  touches : region.touches box.center = true

theorem Cover.select_of_takesIn {region : Region Float} {box : Box Float}
    (h : region.TakesIn box) (height : Nat) : select region height box = leaf .full := by
  cases height with
  | zero => rw [select, if_pos h.touches]
  | succ height => rw [select, if_pos h.covers]

/-- The tree in which such a region has been selected answers with the keys of the grid. -/
theorem RangeTree.covers_ranges_of_takesIn {bounds : Box Float} {level : Nat} {key : Key}
    {region : Region Float} (hlevel : level ≤ 31) (h : region.TakesIn bounds) :
    Covers (ranges ⟨bounds, level, Cover.select region level bounds⟩) key
      ↔ key.toNat < 4 ^ level := by
  refine (covers_merged _ key).trans ?_
  rw [← Extent.mem_range_whole hlevel, blockRanges, Cover.select_of_takesIn h,
    Cover.ranges_leaf_full, covers_cons]
  exact or_iff_left covers_nil

/-! ## Queries -/

/-- A query is for a polygon that fits the grid and takes it in. -/
def GridIndex.AsksForAll (index : GridIndex) (vertices : List (Point Float)) : Prop :=
  ∃ made region, polygon vertices = .ok made ∧ Region.ofPolygon made = .ok region
    ∧ region.Fits index.grid.bounds ∧ region.TakesIn index.grid.bounds

/-- **A query over the whole grid answers with the keys of the grid.** -/
theorem GridIndex.AsksForAll.exists_ranges {index : GridIndex} {vertices : List (Point Float)}
    (hlevel : index.grid.level ≤ 31) (h : index.AsksForAll vertices) :
    ∃ ranges, (index.queryPolygon vertices).result = .ok ranges
      ∧ ∀ key, Covers ranges key ↔ key.toNat < 4 ^ index.grid.level := by
  obtain ⟨made, region, hpolygon, hregion, hfits, htakes⟩ := h
  have haccepted : Request.accepted Region.ofPolygon index.grid.bounds (.polygon made) = true :=
    Request.accepted_iff.mpr ⟨region, hregion, hfits⟩
  obtain ⟨tree, htree⟩ := RangeTree.exists_of_accepted index.grid.level haccepted
  obtain ⟨selected, hselected, -, rfl⟩ := RangeTree.exists_select_of_accepted htree
  obtain rfl : region = selected := Except.ok.inj (hregion.symm.trans hselected)
  have hinsert := RangeTree.result_insert index.grid.rangeTree made
  rw [Grid.rangeTree, htree] at hinsert
  refine ⟨_, ?_, fun key => RangeTree.covers_ranges_of_takesIn hlevel htakes⟩
  rw [queryPolygon, hpolygon]
  exact Attempt.result_bind_of_ok hinsert _

/-! ## What a polygon covers

The sides around a corner are sorted by their directions; two of them are sorted by one comparison,
and whether a polygon covers a box can then be worked out by the definitions. -/

theorem Shape.covers_ofPolygon (polygon : Polygon Float) (box : Box Float) :
    (ofPolygon polygon).covers box
      = (Drawing.ofFigure (Figure.ofPolygon polygon)).covers box.exact := rfl

theorem Region.toShape_of_ofPolygon {polygon : Polygon Float} {region : Region Float}
    (h : ofPolygon polygon = .ok region) : region.toShape = Shape.ofPolygon polygon := by
  rw [ofPolygon] at h
  cases henvelope : polygon.envelope with
  | error error =>
    rw [henvelope] at h
    cases h
  | ok envelope =>
    rw [henvelope] at h
    cases h
    rfl

/-- At most two arms are sorted by one comparison. -/
theorem Arm.gather_eq (arms : List Arm) : gather arms = match arms.foldr add [] with
    | [] => []
    | [a] => [a]
    | [a, b] => if Direction.before b.toward a.toward then [b, a] else [a, b]
    | more => more.mergeSort fun a b => !Direction.before b.toward a.toward := by
  rw [gather]
  match arms.foldr add [] with
  | [] => exact List.mergeSort_nil
  | [a] => exact List.mergeSort_singleton a
  | [a, b] =>
    cases h : Direction.before b.toward a.toward <;>
      simp [List.mergeSort, List.MergeSort.Internal.splitInTwo, h]
  | a :: b :: c :: more => rfl

end ZGrid
