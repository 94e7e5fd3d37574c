import ZGrid.Proofs.DecimalFloat

/-!
# Proofs/MonotoneFloat — arithmetic keeps the order of floats

```
   x  ≤  y     ⟹     x · z  ≤  y · z,   x - z  ≤  y - z,   x / z  ≤  y / z,   ⌊x⌋  ≤  ⌊y⌋
```

Rounding keeps the order, and so does holding a result between the ends; so what is monotone over
the fractions is monotone over the floats, the infinities among them (`NotPast.mul`, `NotPast.sub`,
`NotPast.div`, `NotPast.floor_le`, `NotPast.round_le`).
-/

namespace ZGrid.Float64

open Binary Float.Model Float.Model.UnpackedFloat

variable {x y : Float} {v w : Rat}

/-! ## Infinities -/

/-- Taking away an infinity leaves the other one. -/
theorem isAt_sub_of_infinity {sign : Sign} (hx : isFinite x = true)
    (hy : y.toModel.unpack = .infinity sign) : IsAt (x - y) (signed (-sign) edge) := by
  have hunpack : (x - y).toModel = Float.Model.pack
      (UnpackedFloat.sub Format.binary64 x.toModel.unpack y.toModel.unpack) := rfl
  rw [IsAt, hunpack, hy]
  obtain ⟨s, h, -⟩ | ⟨s, m, e, hpos, -, h, -⟩ := cases_of_isFinite hx <;>
    rw [h] <;> exact unpack_pack_infinity (-sign) ▸ .infinity (-sign)

/-- A part of an infinity is the infinity. -/
theorem isAt_div_of_infinity {sign : Sign} (hx : x.toModel.unpack = .infinity sign)
    (hy : isFinite y = true) (hpos : 0 < exact y) : IsAt (x / y) (signed sign edge) := by
  have hunpack : (x / y).toModel = Float.Model.pack
      (UnpackedFloat.div Format.binary64 x.toModel.unpack y.toModel.unpack) := rfl
  rw [IsAt, hunpack, hx]
  obtain ⟨s, -, hexact⟩ | ⟨s, m, e, hm, -, h, hexact⟩ := cases_of_isFinite hy
  · exact absurd hexact hpos.ne'
  · cases s with
    | negative =>
      rw [exact_eq_signed hexact] at hpos
      exact absurd hpos (neg_neg_of_pos (magnitude_pos hm e)).not_gt
    | positive =>
      rw [h]
      cases sign <;> exact unpack_pack_infinity _ ▸ .infinity _

/-! ## Order -/

/-- A float stands nowhere past another one. -/
def NotPast (x y : Float) : Prop := ∃ v w, IsAt x v ∧ IsAt y w ∧ v ≤ w

theorem notPast_ofInt {a b : Int} (h : a ≤ b) : NotPast (Float.ofInt a) (Float.ofInt b) :=
  ⟨_, _, isAt_ofInt a, isAt_ofInt b, held_mono (nearest_mono (Int.cast_le.mpr h))⟩

theorem NotPast.mul {z : Float} (hx : isFinite x = true) (hy : isFinite y = true) (h : x ≤ y)
    (hz : isFinite z = true) (hnonneg : 0 ≤ exact z) : NotPast (x * z) (y * z) := by
  refine ⟨_, _, IsAt.mul hx hz, IsAt.mul hy hz, held_mono (nearest_mono ?_)⟩
  exact mul_le_mul_of_nonneg_right ((le_iff_exact_le hx hy).mp h) hnonneg

theorem NotPast.sub {z : Float} (hx : isFinite x = true) (hy : isFinite y = true)
    (h : NotPast x y) (hz : IsAt z v) : NotPast (x - z) (y - z) := by
  obtain ⟨a, b, ha, hb, hle⟩ := h
  obtain hfinite | ⟨sign, hunpack, -⟩ := hz.finite_or
  · rw [ha.eq_exact hx, hb.eq_exact hy] at hle
    exact ⟨_, _, IsAt.sub hx hfinite, IsAt.sub hy hfinite,
      held_mono (nearest_mono (sub_le_sub_right hle _))⟩
  · exact ⟨_, _, isAt_sub_of_infinity hx hunpack, isAt_sub_of_infinity hy hunpack, le_rfl⟩

theorem NotPast.div {z : Float} (h : NotPast x y) (hz : isFinite z = true) (hpos : 0 < exact z) :
    NotPast (x / z) (y / z) := by
  obtain ⟨v, w, hx, hy, hle⟩ := h
  obtain hfinite | ⟨sign, hunpack, rfl⟩ := hx.finite_or <;>
    obtain hfinite' | ⟨sign', hunpack', rfl⟩ := hy.finite_or
  · rw [hx.eq_exact hfinite, hy.eq_exact hfinite'] at hle
    exact ⟨_, _, IsAt.div hfinite hz hpos.ne', IsAt.div hfinite' hz hpos.ne',
      held_mono (nearest_mono (div_le_div_of_nonneg_right hle hpos.le))⟩
  · -- Only the positive infinity has a finite float below it.
    have hplace := abs_lt.mp (hx.eq_exact hfinite ▸ abs_exact_lt hfinite)
    cases sign' with
    | negative => exact absurd hle hplace.1.not_ge
    | positive => exact ⟨_, _, IsAt.div hfinite hz hpos.ne',
        isAt_div_of_infinity hunpack' hz hpos, (abs_le.mp (abs_held_le _)).2⟩
  · have hplace := abs_lt.mp (hy.eq_exact hfinite' ▸ abs_exact_lt hfinite')
    cases sign with
    | positive => exact absurd hle hplace.2.not_ge
    | negative => exact ⟨_, _, isAt_div_of_infinity hunpack hz hpos,
        IsAt.div hfinite' hz hpos.ne', (abs_le.mp (abs_held_le _)).1⟩
  · exact ⟨_, _, isAt_div_of_infinity hunpack hz hpos, isAt_div_of_infinity hunpack' hz hpos, hle⟩

/-! ## Whole numbers of 64 bits -/

theorem toInt_ofIntClamp (z : Int) :
    (Int64.ofIntClamp z).toInt = max (-2 ^ 63) (min z (2 ^ 63 - 1)) := by
  rw [Int64.ofIntClamp]
  have hleast : Int64.minValue.toInt = -2 ^ 63 := by decide
  have hgreatest : Int64.maxValue.toInt = 2 ^ 63 - 1 := by decide
  split
  · split
    · rw [Int64.toInt_ofIntLE]
      omega
    · omega
  · omega

theorem toInt_ofIntClamp_mono {a b : Int} (h : a ≤ b) :
    (Int64.ofIntClamp a).toInt ≤ (Int64.ofIntClamp b).toInt := by
  rw [toInt_ofIntClamp, toInt_ofIntClamp]
  omega

theorem NotPast.floor_le (h : NotPast x y) : (floor x).toInt ≤ (floor y).toInt := by
  obtain ⟨v, w, hx, hy, hle⟩ := h
  rw [hx.floor_eq, hy.floor_eq]
  exact toInt_ofIntClamp_mono (Int.floor_le_floor hle)

theorem NotPast.round_le (h : NotPast x y) : (round x).toInt ≤ (round y).toInt := by
  obtain ⟨v, w, hx, hy, hle⟩ := h
  rw [hx.round_eq, hy.round_eq]
  exact toInt_ofIntClamp_mono (roundFraction_mono hle)

theorem abs_toInt_le (n : Int64) : |(n.toInt : Rat)| ≤ 2 ^ 63 := by
  have hlow := n.le_toInt
  have hhigh := n.toInt_lt
  have hbound : |n.toInt| ≤ 2 ^ 63 := by
    rw [abs_le]
    omega
  exact_mod_cast hbound

/-- Whole numbers of 64 bits are finite floats. -/
theorem isFinite_ofInt (n : Int64) : isFinite (Float.ofInt n.toInt) = true := by
  have hnearest := abs_nearest_le ((abs_toInt_le n).trans (by norm_num))
  have h := isAt_ofInt n.toInt
  rw [held_of_abs_le (hnearest.trans two_pow_lt_edge.le)] at h
  exact h.isFinite_of_lt (hnearest.trans_lt two_pow_lt_edge)

/-! ## Signs of results -/

theorem held_nearest_nonneg (h : 0 ≤ v) : 0 ≤ held (nearest v) :=
  held_nearest_zero ▸ held_mono (nearest_mono h)

theorem exact_ofInt_nonneg {n : Int64} (h : 0 ≤ n.toInt) : 0 ≤ exact (Float.ofInt n.toInt) := by
  rw [← (isAt_ofInt n.toInt).eq_exact (isFinite_ofInt n)]
  exact held_nearest_nonneg (Int.cast_nonneg h)

theorem exact_mul_nonneg (hx : isFinite x = true) (hy : isFinite y = true)
    (hproduct : isFinite (x * y) = true) (hle : 0 ≤ exact x) (hle' : 0 ≤ exact y) :
    0 ≤ exact (x * y) := by
  rw [← (IsAt.mul hx hy).eq_exact hproduct]
  exact held_nearest_nonneg (mul_nonneg hle hle')

/-- A distance to a float that is not past another one is not negative. -/
theorem notPast_zero_sub (hx : isFinite x = true) (hy : isFinite y = true) (h : x ≤ y) :
    NotPast 0 (y - x) := by
  refine ⟨0, _, exact_zero ▸ isAt_exact isFinite_zero, IsAt.sub hy hx, held_nearest_nonneg ?_⟩
  exact sub_nonneg.mpr ((le_iff_exact_le hx hy).mp h)

/-- What is not negative has parts that are not. -/
theorem NotPast.floor_div_nonneg {z : Float} (h : NotPast 0 y) (hz : isFinite z = true)
    (hpos : 0 < exact z) : 0 ≤ (floor (y / z)).toInt := by
  have hnought : floor (0 / z) = 0 := by
    rw [(IsAt.div isFinite_zero hz hpos.ne').floor_eq, exact_zero, zero_div, held_nearest_zero,
      Int.floor_zero]
    rfl
  have hle := (h.div hz hpos).floor_le
  rwa [hnought, Int64.toInt_zero] at hle

end ZGrid.Float64
