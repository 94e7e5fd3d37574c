import Mathlib.Analysis.SpecialFunctions.Trigonometric.Basic
import ZGrid.Proofs.GridDepth

/-!
# Proofs/RoundedFunctions — the functions of the real numbers, rounded

```
   real        ┼─────────┼───r─────┼        units of 2 ^ -41
   float                 ●
```

A real number is cut off after 41 binary places, which leaves a float as long as it has no more than
eleven before the point.  The logarithm of a float does not, so this one is right to forty places
(`accurate_rounded`).
-/

namespace ZGrid

namespace Float64

/-- A real number, cut off after 41 binary places. -/
noncomputable def ofReal (r : ℝ) : Float := Float.ofInt ⌊r * 2 ^ 41⌋ / Float.ofInt (2 ^ 41)

variable {r : ℝ} {x : Float}

theorem ofReal_one : ofReal 1 = 1 := by
  have hfloor : ⌊(1 : ℝ) * 2 ^ 41⌋ = 2 ^ 41 := by
    rw [one_mul]
    exact_mod_cast Int.floor_natCast (R := ℝ) (2 ^ 41)
  rw [ofReal, hfloor]
  rfl

theorem ofReal_zero : ofReal 0 = 0 := by
  rw [ofReal, zero_mul, Int.floor_zero]
  rfl

/-- A quotient of a whole number and the units is rounded no more. -/
theorem ofInt_div_near {n : Int} (hn : |n| ≤ 2 ^ 52) :
    isFinite (Float.ofInt n / Float.ofInt (2 ^ 41)) = true
      ∧ |exact (Float.ofInt n / Float.ofInt (2 ^ 41)) - n / 2 ^ 41| ≤ 1 / 2 ^ 41 := by
  have hrational : |(n : Rat)| ≤ 2 ^ 52 := by exact_mod_cast hn
  obtain ⟨hfinite, hexact⟩ := exact_ofInt (n := n) (by omega)
  obtain ⟨hfinite', hunits⟩ := exact_ofInt (n := 2 ^ 41) (by decide)
  rw [Int.cast_pow, Int.cast_ofNat] at hunits
  have hquotient := IsAt.div hfinite hfinite' (by rw [hunits]; norm_num)
  rw [hexact, hunits] at hquotient
  have hpart : |(n : Rat) / 2 ^ 41| ≤ 2 ^ 11 := by
    rw [abs_div, div_le_iff₀ (by positivity)]
    exact hrational.trans (by norm_num)
  have hends := abs_nearest_le (hpart.trans (by norm_num))
  have hsmall : |held (nearest ((n : Rat) / 2 ^ 41))| < edge := by
    rw [held_of_abs_le (hends.trans two_pow_lt_edge.le)]
    exact hends.trans_lt two_pow_lt_edge
  have hfinal := hquotient.isFinite_of_lt hsmall
  refine ⟨hfinal, ?_⟩
  rw [hquotient.exact_eq hfinal]
  linarith [abs_nearest_sub_le ((n : Rat) / 2 ^ 41), smallest_le]

/-- **A real number that is cut off is right to forty binary places.** -/
theorem ofReal_near (h : |r| ≤ 2 ^ 11) : isFinite (ofReal r) = true
    ∧ |(exact (ofReal r) : ℝ) - r| ≤ 1 / 2 ^ 40 := by
  have hbelow := Int.floor_le (r * 2 ^ 41)
  have habove := Int.lt_floor_add_one (r * 2 ^ 41)
  rw [ofReal]
  generalize ⌊r * 2 ^ 41⌋ = n at hbelow habove ⊢
  have hn : |n| ≤ 2 ^ 52 := by
    have hreal : |(n : ℝ)| < 2 ^ 52 + 1 := by
      rw [abs_le] at h
      rw [abs_lt]
      constructor <;> linarith
    have hint : |n| < 2 ^ 52 + 1 := by exact_mod_cast hreal
    omega
  obtain ⟨hfinite, hnear⟩ := ofInt_div_near hn
  refine ⟨hfinite, ?_⟩
  generalize exact (Float.ofInt n / Float.ofInt (2 ^ 41)) = v at hnear ⊢
  have hnear := (Rat.cast_le (K := ℝ)).mpr hnear
  push_cast at hnear
  rw [abs_le] at hnear ⊢
  constructor <;> linarith

theorem two_zpow_le_exact (hx : isFinite x = true) (hpos : 0 < exact x) :
    2 ^ (-1074 : Int) ≤ exact x := by
  obtain ⟨n, hn⟩ := exists_exact_eq hx
  rw [hn] at hpos ⊢
  have hone : 1 ≤ n := Int.cast_pos.mp ((mul_pos_iff_of_pos_right (unit_pos _)).mp hpos)
  exact le_mul_of_one_le_left (unit_pos _).le (by exact_mod_cast hone)

/-- The logarithm of a positive float has eleven places before the point. -/
theorem abs_logb_exact_le (hx : isFinite x = true) (hpos : 0 < exact x) :
    |Real.logb 2 (exact x)| ≤ 2 ^ 11 := by
  have hreal : (0 : ℝ) < exact x := Rat.cast_pos.mpr hpos
  have hlow : (-1074 : Int) ≤ Real.logb 2 (exact x) := by
    rw [Real.le_logb_iff_rpow_le one_lt_two hreal, Real.rpow_intCast]
    have hle := (Rat.cast_le (K := ℝ)).mpr (two_zpow_le_exact hx hpos)
    rwa [Rat.cast_zpow, Rat.cast_ofNat] at hle
  have hhigh : Real.logb 2 (exact x) ≤ (1024 : Nat) := by
    rw [Real.logb_le_iff_le_rpow one_lt_two hreal, Real.rpow_natCast]
    have hlt := (abs_lt.mp (abs_exact_lt hx)).2.le
    rw [edge] at hlt
    exact_mod_cast (Rat.cast_le (K := ℝ)).mpr hlt
  push_cast at hlow hhigh
  rw [abs_le]
  constructor <;> linarith

end Float64

open Float64

variable {x : Float}

/-- The functions of the real numbers, cut off after 41 binary places. -/
noncomputable def Elementary.rounded : Elementary where
  cos x := ofReal (Real.cos (exact x))
  log2 x :=
    if isFinite x = true then
      if exact x = 0 then -(1.0 / 0.0)
      else if 0 < exact x then ofReal (Real.logb 2 (exact x)) else 0.0 / 0.0
    else if 0 < x then x else 0.0 / 0.0

theorem Elementary.rounded_log2 (hx : isFinite x = true) (hpos : 0 < exact x) :
    rounded.log2 x = ofReal (Real.logb 2 (exact x)) :=
  (if_pos hx).trans ((if_neg hpos.ne').trans (if_pos hpos))

/-- One has the logarithm zero, -/
theorem Elementary.rounded_log2_one : rounded.log2 1 = 0 := by
  obtain ⟨hfinite, hone⟩ := exact_ofInt (n := 1) (by decide)
  rw [Int.cast_one] at hone
  have hlog := rounded_log2 hfinite (hone ▸ one_pos)
  rwa [hone, Rat.cast_one, Real.logb_one, ofReal_zero] at hlog

/-- and the cosine of zero is one. -/
theorem Elementary.rounded_cos_zero : rounded.cos 0 = 1 := by
  change ofReal (Real.cos (exact 0)) = 1
  rw [exact_zero, Rat.cast_zero, Real.cos_zero, ofReal_one]

/-- **The logarithm that is cut off is right to forty binary places.** -/
theorem Elementary.accurate_rounded : Elementary.rounded.Accurate := by
  refine ⟨fun x hx => ?_, fun x hx => ?_, fun x hx hpos => ?_, fun x hx hpos => ?_⟩
  · have hfinite := hx.isFinite_of_lt (abs_zero.trans_lt edge_pos)
    have hinfinity := isAt_infinity
    rw [← held_of_abs_le (abs_of_pos edge_pos).le] at hinfinity
    have hvalue : rounded.log2 x = -(1.0 / 0.0) :=
      (if_pos hfinite).trans (if_pos (hx.eq_exact hfinite).symm)
    rw [hvalue, ← held_of_abs_le ((abs_neg edge).trans (abs_of_pos edge_pos)).le]
    exact hinfinity.neg
  · have hpos : 0 < x := (isAt_zero.lt_iff hx).mpr edge_pos
    have hvalue : rounded.log2 x = x := (if_neg hx.not_isFinite).trans (if_pos hpos)
    rwa [hvalue]
  · rw [rounded_log2 hx hpos]
    exact (ofReal_near (abs_logb_exact_le hx hpos)).1
  · rw [rounded_log2 hx hpos]
    exact (ofReal_near (abs_logb_exact_le hx hpos)).2

end ZGrid
