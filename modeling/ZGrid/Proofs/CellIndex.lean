import ZGrid.Proofs.DerivedGrid
import ZGrid.Proofs.FloatError

/-!
# Proofs/CellIndex — the row of some degrees

The row of a point is worked out in floats, one step after another:

```
   degrees ──· ratio──▸ round ──▸ - origin ──▸ / delta ──▸ floor      row
```

Every step keeps the order, so rows are in the order of degrees (`cellIndex_mono`).  And every step
after the point is off by a small part of the number it rounds.  So a point has a row before `2 ^ k`
whenever it lies before the end of so many cells by more than the sum of these errors
(`cellIndex_lt`).
-/

namespace ZGrid

open Float64

namespace Grid

variable {ratio : Int64} {origin delta degrees degrees' : Float}

/-- The row or the column of some degrees along an axis. -/
def cellIndex (ratio : Int64) (origin delta degrees : Float) : Int64 :=
  Float64.floor ((Float.ofInt (Float64.round (degrees * Float.ofInt ratio.toInt)).toInt
      - origin * Float.ofInt ratio.toInt) / (delta * Float.ofInt ratio.toInt))

/-- Degrees in the units of points. -/
def inPoints (ratio : Int64) (degrees : Float) : Rat :=
  Float64.exact degrees * Float64.exact (Float.ofInt ratio.toInt)

/-- The whole number that some degrees come as in a point. -/
def pointOf (ratio : Int64) (degrees : Float) : Int64 :=
  Float64.round (degrees * Float.ofInt ratio.toInt)

/-- How far from the origin the point of some degrees lies at most, with what the floats on the way
are off by. -/
def farthest (ratio : Int64) (origin degrees : Float) : Rat :=
  (pointOf ratio degrees).toInt - inPoints ratio origin
    + (1 + |inPoints ratio origin| + |((pointOf ratio degrees).toInt : Rat)|) / 2 ^ 48

/-! ## The distance of a point from the origin -/

/-- The float of a whole number is not far past it. -/
theorem exact_ofInt_le (n : Int64) : Float64.exact (Float.ofInt n.toInt)
    ≤ n.toInt + |(n.toInt : Rat)| / 2 ^ 53 + 1 / 2 ^ 100 := by
  rw [(isAt_ofInt n.toInt).exact_eq (isFinite_ofInt n)]
  exact nearest_le n.toInt

/-- The distance of a point from the origin, if it is finite. -/
theorem exact_distance_le {point : Int64} (horigin : isFinite origin = true)
    (hscaled : isFinite (origin * Float.ofInt ratio.toInt) = true)
    (hdistance : isFinite (Float.ofInt point.toInt - origin * Float.ofInt ratio.toInt) = true) :
    Float64.exact (Float.ofInt point.toInt - origin * Float.ofInt ratio.toInt)
      ≤ point.toInt - inPoints ratio origin
        + (1 + |inPoints ratio origin| + |(point.toInt : Rat)|) / 2 ^ 50 := by
  have hpoint := exact_ofInt_le point
  have hnear := le_nearest (inPoints ratio origin)
  rw [(IsAt.sub (isFinite_ofInt _) hscaled).exact_eq hdistance,
    (IsAt.mul horigin (isFinite_ofInt ratio)).exact_eq hscaled]
  change nearest (_ - nearest (inPoints ratio origin)) ≤ _
  generalize (point.toInt : Rat) = far at hpoint ⊢
  generalize inPoints ratio origin = near at hnear ⊢
  have hfar := abs_nonneg far
  have hnear' := abs_nonneg near
  have hround := (nearest_mono (sub_le_sub hpoint hnear)).trans (nearest_le _)
  have habs : |far + |far| / 2 ^ 53 + 1 / 2 ^ 100 - (near - |near| / 2 ^ 53 - 1 / 2 ^ 100)|
      ≤ 1 + 2 * |far| + 2 * |near| := by
    rw [abs_le]
    constructor <;>
      linarith [le_abs_self far, neg_abs_le far, le_abs_self near, neg_abs_le near]
  linarith

/-- The end of some cells, worked out in floats, is not far before the exact one. -/
theorem le_mul_nearest {k : Nat} (hk : k ≤ 31) {v : Rat} (hv : 0 ≤ v) :
    2 ^ k * v - 2 ^ k * v / 2 ^ 52 - 1 / 2 ^ 69
      ≤ (2 ^ k - 2 ^ k / 2 ^ 53) * nearest v := by
  have hpower : (0 : Rat) < 2 ^ k := by positivity
  have hgreatest : (2 : Rat) ^ k ≤ 2 ^ 31 := pow_le_pow_right₀ one_le_two hk
  have hround := le_nearest v
  rw [abs_of_nonneg hv] at hround
  have hfactor : (0 : Rat) ≤ 2 ^ k - 2 ^ k / 2 ^ 53 := by linarith
  have hproduct : 0 ≤ 2 ^ k * v := mul_nonneg hpower.le hv
  calc 2 ^ k * v - 2 ^ k * v / 2 ^ 52 - 1 / 2 ^ 69
      ≤ 2 ^ k * v * (1 - 1 / 2 ^ 53) * (1 - 1 / 2 ^ 53) - 2 ^ k * (1 - 1 / 2 ^ 53) / 2 ^ 100 := by
        linarith
    _ = (2 ^ k - 2 ^ k / 2 ^ 53) * (v - v / 2 ^ 53 - 1 / 2 ^ 100) := by ring
    _ ≤ (2 ^ k - 2 ^ k / 2 ^ 53) * nearest v := mul_le_mul_of_nonneg_left hround hfactor

/-! ## Rows of degrees -/

section Axis

variable (hratio : 0 < ratio)
  (hdelta : ¬ delta ≤ 0 ∧ isFinite delta = true)
  (hscaled : isFinite (delta * Float.ofInt ratio.toInt) = true
    ∧ ¬ (delta * Float.ofInt ratio.toInt == 0) = true)
include hratio hdelta hscaled

/-- The extent of a cell in the units of points is positive. -/
theorem scaled_pos : 0 < Float64.exact (delta * Float.ofInt ratio.toInt) := by
  refine lt_of_le_of_ne' ?_ fun hzero => hscaled.2 ?_
  · exact exact_mul_nonneg hdelta.2 (isFinite_ofInt ratio) hscaled.1
      (exact_pos hdelta.2 hdelta.1).le (exact_ofInt_nonneg (Int64.lt_iff_toInt_lt.mp hratio).le)
  · rw [beq_iff_exact_eq hscaled.1 isFinite_zero, hzero, exact_zero]

/-- **Rows and columns are in the order of degrees.** -/
theorem cellIndex_mono (horigin : isFinite origin = true) (hdegrees : isFinite degrees = true)
    (hdegrees' : isFinite degrees' = true) (h : degrees ≤ degrees') :
    (cellIndex ratio origin delta degrees).toInt
      ≤ (cellIndex ratio origin delta degrees').toInt := by
  have hfactor := isFinite_ofInt ratio
  have hround := (NotPast.mul hdegrees hdegrees' h hfactor
    (exact_ofInt_nonneg (Int64.lt_iff_toInt_lt.mp hratio).le)).round_le
  have hdistance := NotPast.sub (isFinite_ofInt _) (isFinite_ofInt _) (notPast_ofInt hround)
    (IsAt.mul horigin hfactor)
  exact (hdistance.div hscaled.1 (scaled_pos hratio hdelta hscaled)).floor_le

/-- Degrees that are not rounded to a point before the origin have a row or a column. -/
theorem cellIndex_nonneg (horigin : isFinite (origin * Float.ofInt ratio.toInt) = true)
    (h : origin * Float.ofInt ratio.toInt
      ≤ Float.ofInt (Float64.round (degrees * Float.ofInt ratio.toInt)).toInt) :
    0 ≤ (cellIndex ratio origin delta degrees).toInt :=
  (notPast_zero_sub horigin (isFinite_ofInt _) h).floor_div_nonneg hscaled.1
    (scaled_pos hratio hdelta hscaled)

/-- **Degrees whose point lies before the end of some cells have a row or a column before it.** -/
theorem cellIndex_lt {k : Nat} (horigin : isFinite origin = true)
    (horigin' : isFinite (origin * Float.ofInt ratio.toInt) = true) (hk : k ≤ 31)
    (h : farthest ratio origin degrees < 2 ^ k * inPoints ratio delta) :
    (cellIndex ratio origin delta degrees).toInt < 2 ^ k := by
  have hpos := scaled_pos hratio hdelta hscaled
  have hplace := IsAt.sub (isFinite_ofInt (pointOf ratio degrees)) horigin'
  obtain hfinite | ⟨sign, hunpack, hends⟩ := hplace.finite_or
  · refine floor_div_lt hfinite hscaled.1 hpos hk
      ((exact_distance_le horigin horigin' hfinite).trans ?_)
    have hnonneg : 0 ≤ inPoints ratio delta := mul_nonneg (exact_pos hdelta.2 hdelta.1).le
      (exact_ofInt_nonneg (Int64.lt_iff_toInt_lt.mp hratio).le)
    have hend := le_mul_nearest hk hnonneg
    rw [(IsAt.mul hdelta.2 (isFinite_ofInt ratio)).exact_eq hscaled.1]
    change _ ≤ _ * nearest (inPoints ratio delta)
    rw [farthest] at h
    generalize ((pointOf ratio degrees).toInt : Rat) = far at h ⊢
    generalize inPoints ratio origin = near at h ⊢
    generalize 2 ^ k * inPoints ratio delta = cells at h hend
    linarith [abs_nonneg far, abs_nonneg near, le_abs_self far, neg_abs_le near]
  · cases sign with
    | positive =>
      have hmost : Float64.exact (Float.ofInt (pointOf ratio degrees).toInt) ≤ 2 ^ 64 := by
        linarith [exact_ofInt_le (pointOf ratio degrees), abs_toInt_le (pointOf ratio degrees),
          le_abs_self ((pointOf ratio degrees).toInt : Rat)]
      exact absurd hends (held_lt_edge (nearest_sub_exact_lt horigin' hmost)).ne
    | negative =>
      refine (isAt_div_of_infinity hunpack hscaled.1 hpos).floor_lt ?_
      exact (neg_neg_of_pos edge_pos).trans (by positivity)

end Axis

end Grid

end ZGrid
