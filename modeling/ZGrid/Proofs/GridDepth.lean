import Mathlib.Analysis.Convex.SpecificFunctions.Basic
import Mathlib.Analysis.SpecialFunctions.Log.Base
import ZGrid.Proofs.DerivedGrid
import ZGrid.Proofs.FloatError

/-!
# Proofs/GridDepth — the least square of cells that is large enough

```
   box      ├──────────── span ──────────┤
   grid     ├───────┼───────┼───────┼───────┤       2 ^ level cells
   half     ├───────┼───────┤                       2 ^ (level - 1) cells
```

The number of halvings is the logarithm of the number of cells, rounded up, for the longer side of
the box.  A logarithm that is right to forty binary places (`Elementary.Accurate`) makes the grid
span both sides of the box, and no smaller one does so, up to one part in `2 ^ 39` of a side
(`leastFor_of_derive`).  Rounding up does not help with that part: a box of little more than
`2 ^ k` cells has the logarithm `k` once it is rounded.
-/

namespace ZGrid

open Float64

/-- A logarithm that is right to forty binary places. -/
structure Elementary.Accurate (elementary : Elementary) : Prop where
  /-- The logarithm of zero is the negative infinity, -/
  log2_zero : ∀ x, IsAt x 0 → IsAt (elementary.log2 x) (-edge)
  /-- and that of the infinity is the infinity. -/
  log2_infinity : ∀ x, IsAt x edge → IsAt (elementary.log2 x) edge
  /-- A positive number has a finite logarithm, -/
  isFinite_log2 : ∀ x, isFinite x = true → 0 < exact x → isFinite (elementary.log2 x) = true
  /-- which is not far from the real one. -/
  log2_near : ∀ x, isFinite x = true → 0 < exact x →
    |(exact (elementary.log2 x) : ℝ) - Real.logb 2 (exact x)| ≤ 1 / 2 ^ 40

namespace Float64

/-! ## Powers of two near a logarithm -/

/-- A small power of two is not far above one. -/
theorem two_rpow_le : (2 : ℝ) ^ (1 / 2 ^ 40 : ℝ) ≤ 1 + 1 / 2 ^ 40 := by
  have h := rpow_one_add_le_one_add_mul_self (s := 1) (p := 1 / 2 ^ 40) (by norm_num)
    (by norm_num) (by norm_num)
  rwa [one_add_one_eq_two, mul_one] at h

variable {q : Rat} {n : Nat}

theorem le_two_pow_of_logb_le (hq : 0 < q) (h : Real.logb 2 q ≤ n + 1 / 2 ^ 40) :
    q ≤ (1 + 1 / 2 ^ 40) * 2 ^ n := by
  have hreal : (0 : ℝ) < q := Rat.cast_pos.mpr hq
  have hle : (q : ℝ) ≤ (1 + 1 / 2 ^ 40) * 2 ^ n :=
    calc (q : ℝ) ≤ 2 ^ ((n : ℝ) + 1 / 2 ^ 40) :=
          (Real.logb_le_iff_le_rpow one_lt_two hreal).mp h
      _ = 2 ^ n * 2 ^ (1 / 2 ^ 40 : ℝ) := by rw [Real.rpow_add two_pos, Real.rpow_natCast]
      _ ≤ 2 ^ n * (1 + 1 / 2 ^ 40) := mul_le_mul_of_nonneg_left two_rpow_le (by positivity)
      _ = (1 + 1 / 2 ^ 40) * 2 ^ n := mul_comm _ _
  exact (Rat.cast_le (K := ℝ)).mp (by push_cast; exact hle)

theorem two_pow_lt_of_lt_logb (hq : 0 < q) (h : n - 1 / 2 ^ 40 < Real.logb 2 q) :
    (1 - 1 / 2 ^ 40) * 2 ^ n < q := by
  have hreal : (0 : ℝ) < q := Rat.cast_pos.mpr hq
  have hlt : (2 : ℝ) ^ n < (1 + 1 / 2 ^ 40) * q :=
    calc (2 : ℝ) ^ n = 2 ^ ((n : ℝ) - 1 / 2 ^ 40) * 2 ^ (1 / 2 ^ 40 : ℝ) := by
          rw [← Real.rpow_add two_pos, sub_add_cancel, Real.rpow_natCast]
      _ < q * 2 ^ (1 / 2 ^ 40 : ℝ) := mul_lt_mul_of_pos_right
          ((Real.lt_logb_iff_rpow_lt one_lt_two hreal).mp h) (by positivity)
      _ ≤ q * (1 + 1 / 2 ^ 40) := mul_le_mul_of_nonneg_left two_rpow_le hreal.le
      _ = (1 + 1 / 2 ^ 40) * q := mul_comm _ _
  have hrational : (2 : Rat) ^ n < (1 + 1 / 2 ^ 40) * q :=
    (Rat.cast_lt (K := ℝ)).mp (by push_cast; exact hlt)
  have hpower : (0 : Rat) < 2 ^ n := by positivity
  linarith

/-! ## The cells along one side -/

/-- What the numbers of cells along a side are compared up to. -/
def tolerance : Rat := 1 / 2 ^ 39

/-- The number of cells along a side. -/
def cells (low high delta : Float) : Rat := (exact high - exact low) / exact delta

/-- A number of cells that is worked out in floats. -/
def Near (q r : Rat) : Prop := |q - r| ≤ r / 2 ^ 51 + 1 / 2 ^ 100

/-- The place of a logarithm tells which powers of two are not less than a number of cells. -/
def Tells (a r : Rat) : Prop :=
  ∀ n : Nat, (a ≤ n → r ≤ (1 + tolerance) * 2 ^ n) ∧ (n < a → (1 - tolerance) * 2 ^ n < r)

theorem Near.le_two_pow {r : Rat} (h : Near q r) (hle : q ≤ (1 + 1 / 2 ^ 40) * 2 ^ n) :
    r ≤ (1 + tolerance) * 2 ^ n := by
  have hone : (1 : Rat) ≤ 2 ^ n := one_le_pow₀ one_le_two
  have hlow := (abs_le.mp h).1
  rw [tolerance]
  linarith

theorem Near.two_pow_lt {r : Rat} (h : Near q r) (hlt : (1 - 1 / 2 ^ 40) * 2 ^ n < q) :
    (1 - tolerance) * 2 ^ n < r := by
  have hone : (1 : Rat) ≤ 2 ^ n := one_le_pow₀ one_le_two
  have hhigh := (abs_le.mp h).2
  rw [tolerance]
  linarith

/-- **The logarithm of a number of cells tells how many of them there are.** -/
theorem Near.exists_isAt_log2 {elementary : Elementary} (haccurate : elementary.Accurate)
    {x : Float} (hfinite : isFinite x = true) (hnonneg : 0 ≤ exact x) {r : Rat}
    (h : Near (exact x) r) : ∃ a, IsAt (elementary.log2 x) a ∧ a < edge ∧ Tells a r := by
  obtain hzero | hpos := hnonneg.eq_or_lt
  · refine ⟨-edge, haccurate.log2_zero x (hzero ▸ isAt_exact hfinite), by linarith [edge_pos],
      fun n => ⟨fun _ => h.le_two_pow (by rw [← hzero]; positivity), fun hn => ?_⟩⟩
    linarith [edge_pos, (Nat.cast_nonneg n : (0 : Rat) ≤ n)]
  · have hlog := abs_le.mp (haccurate.log2_near x hfinite hpos)
    have hfinite' := haccurate.isFinite_log2 x hfinite hpos
    refine ⟨_, isAt_exact hfinite', (abs_lt.mp (abs_exact_lt hfinite')).2, fun n =>
      ⟨fun hle => h.le_two_pow (le_two_pow_of_logb_le hpos ?_),
        fun hlt => h.two_pow_lt (two_pow_lt_of_lt_logb hpos ?_)⟩⟩
    · have hreal : (exact (elementary.log2 x) : ℝ) ≤ n := by exact_mod_cast hle
      linarith
    · have hreal : (n : ℝ) < exact (elementary.log2 x) := by exact_mod_cast hlt
      linarith

/-- A float that stands nowhere below zero is finite, or the infinity. -/
theorem IsAt.finite_or_edge {x : Float} {v : Rat} (h : IsAt x v) (hv : 0 ≤ v) :
    isFinite x = true ∨ IsAt x edge := by
  obtain hfinite | ⟨sign, -, rfl⟩ := h.finite_or
  · exact .inl hfinite
  · cases sign with
    | positive => exact .inr h
    | negative => exact absurd hv (neg_neg_of_pos edge_pos).not_ge

section Side

variable {low high delta : Float} (hlow : isFinite low = true) (hhigh : isFinite high = true)
  (hlt : exact low < exact high) (hdelta : isFinite delta = true) (hpos : 0 < exact delta)
include hlow hhigh hlt hdelta hpos

/-- The number of cells along a side is not far from the exact one, or it is the infinity. -/
theorem near_cells : (isFinite ((high - low) / delta) = true ∧ 0 ≤ exact ((high - low) / delta)
      ∧ Near (exact ((high - low) / delta)) (cells low high delta))
    ∨ IsAt ((high - low) / delta) edge := by
  have hspan : 0 < exact high - exact low := sub_pos.mpr hlt
  have hplace := IsAt.sub hhigh hlow
  have hnonneg := held_nearest_nonneg hspan.le
  obtain hfinite | hinfinite := hplace.finite_or_edge hnonneg
  · rw [hplace.eq_exact hfinite] at hnonneg
    have hquotient := IsAt.div hfinite hdelta hpos.ne'
    have hpart := div_nonneg hnonneg hpos.le
    refine (hquotient.finite_or_edge (held_nearest_nonneg hpart)).imp_left fun hfinite' => ?_
    refine ⟨hfinite', hquotient.eq_exact hfinite' ▸ held_nearest_nonneg hpart, ?_⟩
    have hround := abs_nearest_sub_le (exact (high - low) / exact delta)
    have hnear : |exact (high - low) / exact delta - cells low high delta|
        ≤ cells low high delta / 2 ^ 53 := by
      have herror := abs_nearest_exact_sub_le hhigh hlow
      rw [abs_of_pos hspan, ← hplace.exact_eq hfinite] at herror
      rw [cells, ← sub_div, abs_div, abs_of_pos hpos, div_right_comm]
      exact div_le_div_of_nonneg_right herror hpos.le
    have hcells : 0 < cells low high delta := div_pos hspan hpos
    rw [hquotient.exact_eq hfinite', Near]
    rw [abs_of_nonneg hpart] at hround
    generalize exact (high - low) / exact delta = part at hround hnear ⊢
    rw [abs_le] at hround hnear ⊢
    constructor <;> linarith [smallest_le]
  · obtain hfinite | ⟨sign, hunpack, hsigned⟩ := hinfinite.finite_or
    · exact absurd hfinite hinfinite.not_isFinite
    · exact .inr (hsigned ▸ isAt_div_of_infinity hunpack hdelta hpos)

/-- The logarithm of the number of cells along a side tells how many there are, or it is the
infinity. -/
theorem exists_isAt_log2 {elementary : Elementary} (haccurate : elementary.Accurate) :
    ∃ a, IsAt (elementary.log2 ((high - low) / delta)) a
      ∧ (a < edge → Tells a (cells low high delta)) := by
  obtain ⟨hfinite, hnonneg, hnear⟩ | hinfinite := near_cells hlow hhigh hlt hdelta hpos
  · obtain ⟨a, ha, -, htells⟩ := hnear.exists_isAt_log2 haccurate hfinite hnonneg
    exact ⟨a, ha, fun _ => htells⟩
  · exact ⟨edge, haccurate.log2_infinity _ hinfinite, fun h => absurd h (lt_irrefl edge)⟩

theorem exists_isAt_log2_of_isFinite {elementary : Elementary} (haccurate : elementary.Accurate)
    (hfinite : isFinite ((high - low) / delta) = true) :
    ∃ a, IsAt (elementary.log2 ((high - low) / delta)) a ∧ Tells a (cells low high delta) := by
  obtain ⟨-, hnonneg, hnear⟩ | hinfinite := near_cells hlow hhigh hlt hdelta hpos
  · obtain ⟨a, ha, -, htells⟩ := hnear.exists_isAt_log2 haccurate hfinite hnonneg
    exact ⟨a, ha, htells⟩
  · exact absurd hfinite hinfinite.not_isFinite

end Side

/-- **The greater logarithm is rounded up to the least power of two that is large enough**, for
numbers of cells that are not too near to one. -/
theorem toNat_ceil_of_tells {a b r s : Rat} (ha : Tells a r) (hb : Tells b s)
    (hle : max r s ≤ (1 - tolerance) * 2 ^ n)
    (hlt : n = 0 ∨ (1 + tolerance) * 2 ^ (n - 1) < max r s) : ⌈max a b⌉.toNat = n := by
  have henough : ∀ {a r : Rat}, Tells a r → r ≤ (1 - tolerance) * 2 ^ n → a ≤ n :=
    fun h hr => not_lt.mp (mt (h n).2 hr.not_gt)
  have hceil : ⌈max a b⌉ ≤ n := Int.ceil_le.mpr (max_le
    (henough ha ((le_max_left r s).trans hle)) (henough hb ((le_max_right r s).trans hle)))
  obtain rfl | hlt := hlt
  · omega
  have hfew : ((n - 1 : Nat) : Rat) < max a b := by
    obtain h | h := lt_max_iff.mp hlt
    · exact lt_max_of_lt_left (not_le.mp (mt (ha (n - 1)).1 h.not_ge))
    · exact lt_max_of_lt_right (not_le.mp (mt (hb (n - 1)).1 h.not_ge))
  have hpast : ((n - 1 : Nat) : Int) < ⌈max a b⌉ := Int.lt_ceil.mpr (by exact_mod_cast hfew)
  omega

end Float64

namespace Grid

variable {elementary : Elementary} {config : Config} {grid : Grid Float} {a b : Rat}

/-! ## The number of halvings -/

/-- The number of cells of some extent along the longer side of the box. -/
def longSide (config : Config) (delta : Point Float) : Rat :=
  max (cells config.minLongitude config.maxLongitude delta.x)
    (cells config.minLatitude config.maxLatitude delta.y)

/-- The grid spans both sides of the box, and no smaller one does, up to what the numbers of cells
are compared up to. -/
structure LeastFor (grid : Grid Float) (config : Config) : Prop where
  /-- It is as wide as the box, -/
  width_le : cells config.minLongitude config.maxLongitude grid.delta.x
    ≤ (1 + tolerance) * 2 ^ grid.level
  /-- and as high. -/
  height_le : cells config.minLatitude config.maxLatitude grid.delta.y
    ≤ (1 + tolerance) * 2 ^ grid.level
  /-- Half of its cells are too few for the longer side. -/
  half_lt : grid.level = 0
    ∨ (1 - tolerance) * 2 ^ (grid.level - 1) < longSide config grid.delta

theorem isAt_levels {x y : Float} (hx : IsAt (elementary.log2 x) a)
    (hy : IsAt (elementary.log2 y) b) : IsAt (levels elementary x y) ⌈max a b⌉ :=
  (hx.max hy).ceil

theorem not_gt_maxLevel_iff {x : Float} {z : Int} (hx : IsAt x z) :
    ¬ x > Float.ofNat maxLevel ↔ z ≤ maxLevel := by
  have hmost : IsAt (Float.ofNat maxLevel) (maxLevel : Int) :=
    isAt_intCast (n := maxLevel) (by decide)
  rw [gt_iff_lt, hmost.lt_iff hx, Int.cast_lt, not_lt]

theorem toNatClampNeg_floor {x : Float} {z : Int} (hx : IsAt x z) (hz : z ≤ maxLevel) :
    (Float64.floor x).toNatClampNeg = z.toNat := by
  rw [hx.floor_eq, Int.floor_intCast, Int64.toNatClampNeg, toInt_ofIntClamp]
  rw [maxLevel] at hz
  omega

/-- The number of halvings is the greater logarithm, rounded up. -/
theorem level_eq_of_derive (h : derive elementary config = .ok grid)
    (hx : IsAt (elementary.log2 (grid.cellsEast config)) a)
    (hy : IsAt (elementary.log2 (grid.cellsNorth config)) b) :
    ⌈max a b⌉ ≤ maxLevel ∧ grid.level = ⌈max a b⌉.toNat := by
  obtain ⟨-, -, -, -, hlevels, hlevel⟩ := checks_of_derive h
  have hplace := isAt_levels hx hy
  have hle := (not_gt_maxLevel_iff hplace).mp hlevels
  exact ⟨hle, hlevel.trans (toNatClampNeg_floor hplace hle)⟩

/-- What makes the grid of a configuration. -/
theorem derive_eq_ok {delta : Point Float} {z : Int} (hvalidate : config.validate = .ok ())
    (hcells : cellDegrees elementary config.gridSize config.originLatitude = delta)
    (hx : ¬ delta.x ≤ 0 ∧ isFinite delta.x = true) (hy : ¬ delta.y ≤ 0 ∧ isFinite delta.y = true)
    (hlevels : IsAt (levels elementary ((config.maxLongitude - config.minLongitude) / delta.x)
      ((config.maxLatitude - config.minLatitude) / delta.y)) z) (hz : z ≤ maxLevel) :
    derive elementary config = .ok ⟨⟨config.minLongitude, config.minLatitude⟩, delta,
      config.conversionRatio, z.toNat⟩ := by
  have hdelta : (decide (delta.x ≤ 0) || decide (delta.y ≤ 0) || !isFinite delta.x
      || !isFinite delta.y) = false := by
    rw [decide_eq_false hx.1, decide_eq_false hy.1, hx.2, hy.2]
    rfl
  rw [derive, hvalidate]
  dsimp only [bind, Except.bind]
  rw [hcells, hdelta, if_neg Bool.false_ne_true, if_neg ((not_gt_maxLevel_iff hlevels).mpr hz),
    toNatClampNeg_floor hlevels hz]
  rfl

/-- **A box has the grid of the least power of two of cells**, unless one ends too near to it. -/
theorem derive_eq_of_cells {delta : Point Float} {n : Nat} (haccurate : elementary.Accurate)
    (hvalidate : config.validate = .ok ())
    (hcells : cellDegrees elementary config.gridSize config.originLatitude = delta)
    (hx : ¬ delta.x ≤ 0 ∧ isFinite delta.x = true) (hy : ¬ delta.y ≤ 0 ∧ isFinite delta.y = true)
    (hfinite : isFinite ((config.maxLongitude - config.minLongitude) / delta.x) = true
      ∧ isFinite ((config.maxLatitude - config.minLatitude) / delta.y) = true)
    (hn : n ≤ maxLevel) (hle : longSide config delta ≤ (1 - tolerance) * 2 ^ n)
    (hlt : n = 0 ∨ (1 + tolerance) * 2 ^ (n - 1) < longSide config delta) :
    derive elementary config = .ok ⟨⟨config.minLongitude, config.minLatitude⟩, delta,
      config.conversionRatio, n⟩ := by
  obtain ⟨⟨hwest, heast, hwidth⟩, hsouth, hnorth, hheight⟩ := Config.sides_of_validate hvalidate
  obtain ⟨a, ha, hacross⟩ := exists_isAt_log2_of_isFinite hwest heast hwidth hx.2
    (exact_pos hx.2 hx.1) haccurate hfinite.1
  obtain ⟨b, hb, hup⟩ := exists_isAt_log2_of_isFinite hsouth hnorth hheight hy.2
    (exact_pos hy.2 hy.1) haccurate hfinite.2
  have hlevel := toNat_ceil_of_tells hacross hup hle hlt
  rw [derive_eq_ok hvalidate hcells hx hy (isAt_levels ha hb) (by omega), hlevel]

/-- **The grid of a configuration is the least square of cells that is large enough.** -/
theorem leastFor_of_derive (haccurate : elementary.Accurate)
    (h : derive elementary config = .ok grid) : grid.LeastFor config := by
  obtain ⟨hvalidate, -, hx, hy, -⟩ := checks_of_derive h
  obtain ⟨⟨hwest, heast, hwidth⟩, hsouth, hnorth, hheight⟩ := Config.sides_of_validate hvalidate
  obtain ⟨a, ha, hacross⟩ :=
    exists_isAt_log2 hwest heast hwidth hx.2 (exact_pos hx.2 hx.1) haccurate
  obtain ⟨b, hb, hup⟩ :=
    exists_isAt_log2 hsouth hnorth hheight hy.2 (exact_pos hy.2 hy.1) haccurate
  obtain ⟨hmost, hlevel⟩ := level_eq_of_derive h ha hb
  have hgreatest : max a b < edge := by
    have hceil : max a b ≤ maxLevel := (Int.le_ceil _).trans (by exact_mod_cast hmost)
    exact hceil.trans_lt (lt_trans (by rw [maxLevel]; norm_num) two_pow_lt_edge)
  have hacross := hacross ((le_max_left a b).trans_lt hgreatest)
  have hup := hup ((le_max_right a b).trans_lt hgreatest)
  have henough : max a b ≤ grid.level := by
    have hle : ⌈max a b⌉ ≤ (grid.level : Int) := by omega
    exact (Int.le_ceil _).trans (by exact_mod_cast hle)
  refine ⟨(hacross _).1 ((le_max_left a b).trans henough),
    (hup _).1 ((le_max_right a b).trans henough), or_iff_not_imp_left.mpr fun hpositive => ?_⟩
  have hfew : ((grid.level - 1 : Nat) : Rat) < max a b := by
    have hlt : ((grid.level - 1 : Nat) : Int) < ⌈max a b⌉ := by omega
    exact_mod_cast Int.lt_ceil.mp hlt
  obtain hlt | hlt := lt_max_iff.mp hfew
  · exact lt_max_of_lt_left ((hacross _).2 hlt)
  · exact lt_max_of_lt_right ((hup _).2 hlt)

end Grid

end ZGrid
