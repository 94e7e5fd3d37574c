import Mathlib.Algebra.Order.Round
import Mathlib.Data.Rat.Floor
import Mathlib.Tactic.Linarith
import ZGrid.Grid.Exact

/-!
# Proofs/RoundedFraction — the whole number nearest to a fraction

A half goes away from zero, so rounding is the same on both sides of zero (`roundFraction_neg`):

```
   fraction    -3/2   -1   -1/2    0    1/2    1    3/2
   rounded      -2    -1    -1     0     1     1     2
```

From zero on it is `round`, which sends every half up; what is known of the one is carried over to
the other, and then past zero.
-/

namespace ZGrid

variable {v w : Rat}

theorem roundFraction_of_nonneg (h : 0 ≤ v) : roundFraction v = ⌊v + 1 / 2⌋ := if_pos h

theorem roundFraction_neg (v : Rat) : roundFraction (-v) = -roundFraction v := by
  obtain h | rfl | h := lt_trichotomy v 0
  · rw [roundFraction, roundFraction, if_pos (by linarith), if_neg (by linarith), neg_neg]
  · decide +kernel
  · rw [roundFraction, roundFraction, if_neg (by linarith), if_pos h.le, neg_neg]

/-- **Rounding moves a fraction by half a unit at most.** -/
theorem abs_roundFraction_sub_le (v : Rat) : |(roundFraction v : Rat) - v| ≤ 1 / 2 := by
  have hnonneg : ∀ {u : Rat}, 0 ≤ u → |(roundFraction u : Rat) - u| ≤ 1 / 2 := by
    intro u hu
    rw [roundFraction_of_nonneg hu, ← round_eq, abs_sub_comm]
    exact abs_sub_round u
  obtain hv | hv := le_or_gt 0 v
  · exact hnonneg hv
  · have hopposite := hnonneg (u := -v) (by linarith)
    rwa [roundFraction_neg, Int.cast_neg, ← neg_sub', abs_neg] at hopposite

theorem roundFraction_nonneg (h : 0 ≤ v) : 0 ≤ roundFraction v := by
  rw [roundFraction_of_nonneg h]
  exact Int.floor_nonneg.mpr (by linarith)

/-- Rounding keeps the order of fractions. -/
theorem roundFraction_mono (h : v ≤ w) : roundFraction v ≤ roundFraction w := by
  obtain hv | hv := le_or_gt 0 v
  · rw [roundFraction_of_nonneg hv, roundFraction_of_nonneg (hv.trans h)]
    exact Int.floor_le_floor (by linarith)
  · rw [← neg_neg v, roundFraction_neg (-v)]
    have hv' : 0 ≤ -v := by linarith
    obtain hw | hw := le_or_gt 0 w
    · exact (neg_nonpos.mpr (roundFraction_nonneg hv')).trans (roundFraction_nonneg hw)
    · rw [← neg_neg w, roundFraction_neg (-w), roundFraction_of_nonneg hv',
        roundFraction_of_nonneg (by linarith)]
      exact neg_le_neg (Int.floor_le_floor (by linarith))

/-- A whole number is its own rounding. -/
theorem roundFraction_intCast (n : Int) : roundFraction n = n := by
  have hnear : |((roundFraction n - n : Int) : Rat)| < 1 := by
    rw [Int.cast_sub]
    exact (abs_roundFraction_sub_le n).trans_lt (by norm_num)
  exact sub_eq_zero.mp (Int.abs_lt_one_iff.mp (by exact_mod_cast hnear))

/-- Between the least and the greatest number of 64 bits nothing is held back. -/
theorem toInt_round (h : v ∈ Set.Icc (Int64.minValue.toInt : Rat) Int64.maxValue.toInt) :
    (Degrees.round v : Int64).toInt = roundFraction v := by
  have hleast := roundFraction_mono h.1
  have hgreatest := roundFraction_mono h.2
  rw [roundFraction_intCast] at hleast hgreatest
  exact Int64.toInt_ofIntClamp hleast hgreatest

end ZGrid
