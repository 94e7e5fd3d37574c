import ZGrid.Plane.Polygon
import ZGrid.Proofs.FloatOrder

/-!
# Proofs/Envelope — the least box around some points

```
   top      ┌────────●──────┐
            ●               │        each side goes through a point,
            │          ●    ●        and no point lies past a side
   bottom   └──────●────────┘
          left            right
```

A range of coordinates is widened by one coordinate at a time and always is the span of those seen
so far (`Spans.widen`).  So the box reaches past another one exactly if a point does
(`Surrounds.exceededBy_iff`), whatever the sides of the other one are: they may be endless or no
numbers at all.
-/

namespace ZGrid

/-! ## Floats past a finite one -/

namespace Float64

open Binary Float.Model Float.Model.UnpackedFloat

variable {x y z : Float}

theorem lt_of_exact_le_of_lt (hx : isFinite x = true) (hy : isFinite y = true)
    (hle : exact x ≤ exact y) (hlt : y < z) : x < z := by
  cases hz : isFinite z with
  | true =>
    rw [lt_iff_exact_lt hy hz] at hlt
    exact (lt_iff_exact_lt hx hz).mpr (hle.trans_lt hlt)
  | false => exact (lt_iff_of_not_finite hx hz).mpr ((lt_iff_of_not_finite hy hz).mp hlt)

theorem lt_of_lt_of_exact_le (hx : isFinite x = true) (hy : isFinite y = true)
    (hlt : z < x) (hle : exact x ≤ exact y) : z < y := by
  cases hz : isFinite z with
  | true =>
    rw [lt_iff_exact_lt hz hx] at hlt
    exact (lt_iff_exact_lt hz hy).mpr (hlt.trans_le hle)
  | false => exact (not_finite_lt_iff hy hz).mpr ((not_finite_lt_iff hx hz).mp hlt)

end Float64

open Float64

/-! ## Spans -/

/-- A range goes from the least of some coordinates to the greatest. -/
structure Spans (range : Float × Float) (coordinates : List Float) : Prop where
  /-- The lower end is one of them. -/
  low_mem : range.1 ∈ coordinates
  /-- The upper end is one of them. -/
  high_mem : range.2 ∈ coordinates
  /-- None is below the lower end. -/
  low_le : ∀ x ∈ coordinates, exact range.1 ≤ exact x
  /-- None is above the upper end. -/
  le_high : ∀ x ∈ coordinates, exact x ≤ exact range.2

namespace Spans

variable {range : Float × Float} {coordinates rest : List Float} {x bound : Float}

theorem singleton (x : Float) : Spans (x, x) [x] :=
  ⟨List.mem_singleton.mpr rfl, List.mem_singleton.mpr rfl,
    List.forall_mem_singleton.mpr le_rfl, List.forall_mem_singleton.mpr le_rfl⟩

/-- **One more coordinate.** -/
theorem widen (h : Spans range coordinates) (hfinite : ∀ y ∈ coordinates, isFinite y = true)
    (hx : isFinite x = true) : Spans (Polygon.widen range x) (coordinates ++ [x]) := by
  have hlow := hfinite _ h.low_mem
  have hhigh := hfinite _ h.high_mem
  have hle : exact range.1 ≤ exact range.2 := h.low_le _ h.high_mem
  have hmem : x ∈ coordinates ++ [x] := List.mem_append_right _ (List.mem_singleton.mpr rfl)
  have hbounds : ∀ {low high : Float}, exact low ≤ exact range.1 → exact low ≤ exact x →
      exact range.2 ≤ exact high → exact x ≤ exact high →
      (∀ y ∈ coordinates ++ [x], exact low ≤ exact y)
        ∧ ∀ y ∈ coordinates ++ [x], exact y ≤ exact high := by
    intro low high hlow hlow' hhigh hhigh'
    simp only [List.forall_mem_append, List.forall_mem_singleton]
    exact ⟨⟨fun y hy => hlow.trans (h.low_le y hy), hlow'⟩,
      fun y hy => (h.le_high y hy).trans hhigh, hhigh'⟩
  rw [Polygon.widen]
  split
  · rename_i habove
    have habove := (lt_iff_exact_lt hhigh hx).mp habove
    obtain ⟨hleast, hgreatest⟩ := hbounds le_rfl (hle.trans habove.le) habove.le le_rfl
    exact ⟨List.mem_append_left _ h.low_mem, hmem, hleast, hgreatest⟩
  · rename_i habove
    have habove := not_lt.mp (mt (lt_iff_exact_lt hhigh hx).mpr habove)
    split
    · rename_i hbelow
      have hbelow := (lt_iff_exact_lt hx hlow).mp hbelow
      obtain ⟨hleast, hgreatest⟩ := hbounds hbelow.le le_rfl le_rfl (hbelow.le.trans hle)
      exact ⟨hmem, List.mem_append_left _ h.high_mem, hleast, hgreatest⟩
    · rename_i hbelow
      have hbelow := not_lt.mp (mt (lt_iff_exact_lt hx hlow).mpr hbelow)
      obtain ⟨hleast, hgreatest⟩ := hbounds le_rfl hbelow le_rfl habove
      exact ⟨List.mem_append_left _ h.low_mem, List.mem_append_left _ h.high_mem, hleast,
        hgreatest⟩

/-- **All of them, one after another.** -/
theorem foldl_widen (h : Spans range coordinates)
    (hfinite : ∀ y ∈ coordinates ++ rest, isFinite y = true) :
    Spans (rest.foldl Polygon.widen range) (coordinates ++ rest) := by
  induction rest generalizing range coordinates with
  | nil => rwa [List.append_nil]
  | cons x rest ih =>
    rw [List.append_cons] at hfinite ⊢
    have hseen := (List.forall_mem_append.mp (List.forall_mem_append.mp hfinite).1)
    exact ih (h.widen hseen.1 (hseen.2 x (List.mem_singleton.mpr rfl))) hfinite

/-- Ends that are not in strict order are equal, and may change places. -/
theorem sorted (h : Spans range coordinates) (hfinite : ∀ y ∈ coordinates, isFinite y = true) :
    Spans (if range.1 < range.2 then range else range.swap) coordinates := by
  split
  · exact h
  · rename_i hlt
    rw [lt_iff_exact_lt (hfinite _ h.low_mem) (hfinite _ h.high_mem), not_lt] at hlt
    exact ⟨h.high_mem, h.low_mem, fun y hy => hlt.trans (h.low_le y hy),
      fun y hy => (h.le_high y hy).trans hlt⟩

/-- The coordinates reach below a bound if the lower end does. -/
theorem low_lt_iff (h : Spans range coordinates) (hfinite : ∀ y ∈ coordinates, isFinite y = true) :
    range.1 < bound ↔ ∃ y ∈ coordinates, y < bound := by
  refine ⟨fun hlt => ⟨_, h.low_mem, hlt⟩, ?_⟩
  rintro ⟨y, hy, hlt⟩
  exact lt_of_exact_le_of_lt (hfinite _ h.low_mem) (hfinite y hy) (h.low_le y hy) hlt

/-- They reach above a bound if the upper end does. -/
theorem lt_high_iff (h : Spans range coordinates) (hfinite : ∀ y ∈ coordinates, isFinite y = true) :
    bound < range.2 ↔ ∃ y ∈ coordinates, bound < y := by
  refine ⟨fun hlt => ⟨_, h.high_mem, hlt⟩, ?_⟩
  rintro ⟨y, hy, hlt⟩
  exact lt_of_lt_of_exact_le (hfinite y hy) (hfinite _ h.high_mem) hlt (h.le_high y hy)

theorem of_mem_iff (h : Spans range coordinates) (hmem : ∀ y, y ∈ coordinates ↔ y ∈ rest) :
    Spans range rest :=
  ⟨(hmem _).mp h.low_mem, (hmem _).mp h.high_mem, fun y hy => h.low_le y ((hmem y).mpr hy),
    fun y hy => h.le_high y ((hmem y).mpr hy)⟩

end Spans

/-! ## Boxes -/

namespace Box

/-- The point lies past a side of the box. -/
def Leaves {α : Type} [LT α] (box : Box α) (point : Point α) : Prop :=
  point.x < box.left ∨ box.right < point.x ∨ box.top < point.y ∨ point.y < box.bottom

/-- The least box around some points. -/
structure Surrounds (box : Box Float) (points : List (Point Float)) : Prop where
  /-- Its western and eastern sides. -/
  x : Spans (box.left, box.right) (points.map Point.x)
  /-- Its southern and northern sides. -/
  y : Spans (box.bottom, box.top) (points.map Point.y)

variable {box bounds : Box Float} {points : List (Point Float)}

theorem isFinite_of_mem_map
    (hfinite : ∀ point ∈ points, isFinite point.x = true ∧ isFinite point.y = true) :
    (∀ x ∈ points.map Point.x, isFinite x = true)
      ∧ ∀ y ∈ points.map Point.y, isFinite y = true :=
  ⟨List.forall_mem_map.mpr fun point hpoint => (hfinite point hpoint).1,
    List.forall_mem_map.mpr fun point hpoint => (hfinite point hpoint).2⟩

theorem Surrounds.of_mem_iff {others : List (Point Float)} (h : box.Surrounds points)
    (hmem : ∀ point, point ∈ points ↔ point ∈ others) : box.Surrounds others :=
  ⟨h.x.of_mem_iff fun x => by simp only [List.mem_map, hmem],
    h.y.of_mem_iff fun y => by simp only [List.mem_map, hmem]⟩

theorem Surrounds.ordered (h : box.Surrounds points)
    (hfinite : ∀ point ∈ points, isFinite point.x = true ∧ isFinite point.y = true) :
    box.ordered.Surrounds points := by
  obtain ⟨hxs, hys⟩ := isFinite_of_mem_map hfinite
  have hx := h.x.sorted hxs
  have hy := h.y.sorted hys
  by_cases hleft : box.left < box.right <;> by_cases hbottom : box.bottom < box.top <;>
    simp only [hleft, hbottom, if_true, if_false, Prod.swap_prod_mk] at hx hy <;>
    exact ⟨by simpa [Box.ordered, hleft, hbottom] using hx,
      by simpa [Box.ordered, hleft, hbottom] using hy⟩

/-- **A least box reaches past another box exactly if a point does.** -/
theorem Surrounds.exceededBy_iff (h : box.Surrounds points)
    (hfinite : ∀ point ∈ points, isFinite point.x = true ∧ isFinite point.y = true) :
    bounds.exceededBy box = true ↔ ∃ point ∈ points, bounds.Leaves point := by
  obtain ⟨hxs, hys⟩ := isFinite_of_mem_map hfinite
  simp only [exceededBy, Bool.or_eq_true, decide_eq_true_iff, h.x.low_lt_iff hxs,
    h.x.lt_high_iff hxs, h.y.low_lt_iff hys, h.y.lt_high_iff hys, List.mem_map,
    exists_exists_and_eq_and, ← exists_or, ← and_or_left, or_assoc, Leaves]

end Box

/-- **The box around points is the least one.** -/
theorem Polygon.exists_boundingBox? {points : List (Point Float)} (hne : points ≠ [])
    (hfinite : ∀ point ∈ points, isFinite point.x = true ∧ isFinite point.y = true) :
    ∃ box, boundingBox? points = some box ∧ box.Surrounds points := by
  obtain ⟨first, rest, rfl⟩ := List.exists_cons_of_ne_nil hne
  have hspans : ∀ coordinate : Point Float → Float,
      (∀ point ∈ first :: rest, isFinite (coordinate point) = true) →
      Spans (rest.foldl (fun range point => widen range (coordinate point))
        (coordinate first, coordinate first)) ((first :: rest).map coordinate) := by
    intro coordinate hcoordinate
    rw [← List.foldl_map (f := coordinate) (g := widen)]
    have hfinite : ∀ x ∈ (first :: rest).map coordinate, isFinite x = true :=
      List.forall_mem_map.mpr hcoordinate
    exact (Spans.singleton _).foldl_widen hfinite
  refine ⟨_, rfl, Box.Surrounds.ordered ⟨?_, ?_⟩ hfinite⟩
  · exact hspans Point.x fun point hpoint => (hfinite point hpoint).1
  · exact hspans Point.y fun point hpoint => (hfinite point hpoint).2

end ZGrid
