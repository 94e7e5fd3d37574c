import ZGrid.Proofs.MonotoneFloat

/-!
# Proofs/FloatError — how far a float is from the exact number

A fraction is off by half a unit at most when it is rounded, and a unit is the last of 53 digits, or
the smallest one there is:

```
   ┼──────────────┼──────────────┼       units of 2 ^ place v
                  ●◂───▸ v                |nearest v - v| ≤ |v| / 2 ^ 53 + 2 ^ -1075
```

A difference of floats is a whole number of the smallest units already, and then the second part of
the error is not there (`abs_nearest_sub_le_of_units`).
-/

namespace ZGrid.Float64

open Binary Float.Model Float.Model.UnpackedFloat

variable {x y : Float} {u v w : Rat}

/-! ## The error of one rounding -/

theorem abs_nearestEven_sub_le (hu : 0 ≤ u) : |(nearestEven u : Rat) - u| ≤ 1 / 2 := by
  have hfloor : (⌊u⌋₊ : Rat) ≤ u := Nat.floor_le hu
  have hsucc := Nat.lt_floor_add_one u
  rw [nearestEven, abs_le]
  split_ifs with hbelow hhalf
  · constructor <;> linarith
  · obtain heven | hodd := Nat.mod_two_eq_zero_or_one ⌊u⌋₊
    · rw [heven]
      push_cast
      constructor <;> linarith
    · rw [hodd]
      push_cast
      constructor <;> linarith
  · push_cast
    constructor <;> linarith

/-- A fraction is off by half a unit at most. -/
theorem abs_rounded_sub_le_unit (hu : 0 ≤ u) : |rounded u - u| ≤ 2 ^ place u / 2 := by
  have hunit := unit_pos (place u)
  have hoff := abs_nearestEven_sub_le (div_nonneg hu hunit.le)
  have hscaled : rounded u - u
      = (nearestEven (u / 2 ^ place u) - u / 2 ^ place u) * 2 ^ place u := by
    rw [rounded, sub_mul, div_mul_cancel₀ _ hunit.ne']
  rw [hscaled, abs_mul, abs_of_pos hunit]
  calc |(nearestEven (u / 2 ^ place u) : Rat) - u / 2 ^ place u| * 2 ^ place u
      ≤ 1 / 2 * 2 ^ place u := mul_le_mul_of_nonneg_right hoff hunit.le
    _ = 2 ^ place u / 2 := by ring

/-- Past the smallest units, that is half of the last one of 53 digits. -/
theorem abs_rounded_sub_le_of_place (hu : 0 < u) (h : -1074 < place u) :
    |rounded u - u| ≤ u / 2 ^ 53 := by
  have hdigits := (le_div_iff₀ (unit_pos _)).mp (le_div_unit hu h)
  calc |rounded u - u| ≤ 2 ^ place u / 2 := abs_rounded_sub_le_unit hu.le
    _ = 2 ^ 52 * 2 ^ place u / 2 ^ 53 := by ring
    _ ≤ u / 2 ^ 53 := div_le_div_of_nonneg_right hdigits (by positivity)

/-- Some floats share the units with the smallest one. -/
theorem place_eq_or_lt (u : Rat) : place u = -1074 ∨ -1074 < place u := by
  rw [place]
  omega

theorem abs_rounded_sub_le (hu : 0 ≤ u) :
    |rounded u - u| ≤ u / 2 ^ 53 + 2 ^ (-1075 : Int) := by
  have htiny : (0 : Rat) < 2 ^ (-1075 : Int) := unit_pos _
  obtain rfl | hpos := hu.eq_or_lt
  · rw [rounded_zero, sub_zero, abs_zero, zero_div, zero_add]
    exact htiny.le
  obtain hleast | hgreater := place_eq_or_lt u
  · have hunit : (2 : Rat) ^ (-1074 : Int) / 2 = 2 ^ (-1075 : Int) := by
      rw [div_eq_iff two_ne_zero, ← zpow_add_one₀ two_ne_zero]
      rfl
    have hhalf := abs_rounded_sub_le_unit hu
    rw [hleast, hunit] at hhalf
    exact hhalf.trans (le_add_of_nonneg_left (by positivity))
  · exact (abs_rounded_sub_le_of_place hpos hgreater).trans (le_add_of_nonneg_right htiny.le)

/-- A rounded number of the smallest units is off by half of its last digit at most. -/
theorem abs_rounded_sub_le_of_units {n : Nat} (h : u = n * 2 ^ (-1074 : Int)) :
    |rounded u - u| ≤ u / 2 ^ 53 := by
  obtain rfl | hpos := n.eq_zero_or_pos
  · rw [Nat.cast_zero, zero_mul] at h
    rw [h, rounded_zero, sub_zero, abs_zero, zero_div]
  have hu : 0 < u := h ▸ mul_pos (Nat.cast_pos.mpr hpos) (unit_pos _)
  obtain hleast | hgreater := place_eq_or_lt u
  · have hexact : rounded u = u := by
      rw [rounded, hleast, h, mul_div_cancel_right₀ _ (unit_pos _).ne', nearestEven_natCast]
    rw [hexact, sub_self, abs_zero]
    positivity
  · exact abs_rounded_sub_le_of_place hu hgreater

/-- What holds of the distances of fractions that are not negative holds of all. -/
theorem abs_nearest_sub (v : Rat) : |nearest v - v| = abs (rounded |v| - |v|) := by
  obtain hneg | hnonneg := lt_or_ge v 0
  · rw [nearest, if_pos hneg, abs_of_neg hneg, ← abs_neg]
    exact congrArg (|·|) (by ring)
  · rw [nearest, if_neg hnonneg.not_gt, abs_of_nonneg hnonneg]

/-- **A rounded fraction is off by half of its last digit, or by half of the smallest unit.** -/
theorem abs_nearest_sub_le (v : Rat) : |nearest v - v| ≤ |v| / 2 ^ 53 + 2 ^ (-1075 : Int) :=
  (abs_nearest_sub v).trans_le (abs_rounded_sub_le (abs_nonneg v))

/-- **A whole number of the smallest units is off by half of its last digit at most.** -/
theorem abs_nearest_sub_le_of_units {n : Int} (h : v = n * 2 ^ (-1074 : Int)) :
    |nearest v - v| ≤ |v| / 2 ^ 53 := by
  refine (abs_nearest_sub v).trans_le (abs_rounded_sub_le_of_units (n := n.natAbs) ?_)
  rw [h, abs_mul, abs_of_pos (unit_pos (-1074)), Nat.cast_natAbs, Int.cast_abs]

/-- Every float is a whole number of the smallest units. -/
theorem exists_exact_eq (hx : isFinite x = true) :
    ∃ n : Int, exact x = n * 2 ^ (-1074 : Int) := by
  obtain ⟨negative, m, e, hvalue⟩ := exists_ofFloat_eq hx
  have hleast := (fits_of_ofFloat hvalue).exponent_ge
  have hunits : magnitude m e = ((m <<< (e + 1074).toNat : Nat) : Int) * 2 ^ (-1074 : Int) := by
    have h := magnitude_decrease (m := m) hleast
    rw [sub_neg_eq_add] at h
    rw [← h, magnitude, Int.cast_natCast]
  rw [exact, hvalue]
  cases negative with
  | true => exact ⟨_, (congrArg Neg.neg hunits).trans (by rw [← neg_mul, ← Int.cast_neg])⟩
  | false => exact ⟨_, hunits⟩

/-- **A difference of floats is off by half of its last digit at most.** -/
theorem abs_nearest_exact_sub_le (hx : isFinite x = true) (hy : isFinite y = true) :
    |nearest (exact x - exact y) - (exact x - exact y)| ≤ |exact x - exact y| / 2 ^ 53 := by
  obtain ⟨n, hn⟩ := exists_exact_eq hx
  obtain ⟨k, hk⟩ := exists_exact_eq hy
  refine abs_nearest_sub_le_of_units (n := n - k) ?_
  rw [hn, hk, Int.cast_sub, sub_mul]

/-! ## Bounds on rounded fractions -/

/-- Half of the smallest unit counts for nothing beside the numbers that are compared. -/
theorem smallest_le : (2 : Rat) ^ (-1075 : Int) ≤ 1 / 2 ^ 100 := by
  calc (2 : Rat) ^ (-1075 : Int) ≤ 2 ^ (-100 : Int) := zpow_le_zpow_right₀ one_le_two (by decide)
    _ = 1 / 2 ^ 100 := by norm_num

theorem nearest_le (v : Rat) : nearest v ≤ v + |v| / 2 ^ 53 + 1 / 2 ^ 100 := by
  have h := (abs_le.mp (abs_nearest_sub_le v)).2
  linarith [smallest_le]

theorem le_nearest (v : Rat) : v - |v| / 2 ^ 53 - 1 / 2 ^ 100 ≤ nearest v := by
  have h := (abs_le.mp (abs_nearest_sub_le v)).1
  linarith [smallest_le]

theorem held_lt_edge (h : v < edge) : held v < edge :=
  max_lt (by linarith [edge_pos]) ((min_le_left v edge).trans_lt h)

/-- A finite float has not been held back. -/
theorem IsAt.exact_eq (hx : isFinite x = true) (h : IsAt x (held v)) : exact x = v := by
  have hplace := h.eq_exact hx
  have hends := abs_lt.mp (abs_exact_lt hx)
  rw [← hplace] at hends ⊢
  have hedge := edge_pos
  rw [held, max_def, min_def] at hends ⊢
  split_ifs at hends ⊢ <;> linarith

theorem edge_eq : edge = 2 ^ 53 * 2 ^ 971 := (pow_add 2 53 971)

/-- The greatest float is one part in `2 ^ 53` before the end. -/
theorem abs_exact_le (hx : isFinite x = true) : |exact x| ≤ edge - 2 ^ 971 := by
  obtain ⟨negative, m, e, hvalue⟩ := exists_ofFloat_eq hx
  have hm : (m : Rat) ≤ 2 ^ 53 - 1 := by
    have hlt := (fits_of_ofFloat hvalue).mantissa_lt
    have hle : m + 1 ≤ 2 ^ 53 := hlt
    have : (m : Rat) + 1 ≤ 2 ^ 53 := by exact_mod_cast hle
    linarith
  rw [abs_exact_eq hvalue]
  calc (m : Rat) * 2 ^ e ≤ (2 ^ 53 - 1) * 2 ^ (971 : Int) :=
        mul_le_mul hm (zpow_le_zpow_right₀ one_le_two (exponent_le_of_ofFloat hvalue))
          (unit_pos e).le (by norm_num)
    _ = edge - 2 ^ 971 := by rw [sub_one_mul, edge_eq]; rfl

/-- A finite float is not taken to the end by a number of 64 bits. -/
theorem nearest_sub_exact_lt (hx : isFinite x = true) (hv : v ≤ 2 ^ 64) :
    nearest (v - exact x) < edge := by
  have hexact := (abs_le.mp (abs_exact_le hx)).1
  have hunit : (2 : Rat) ^ 200 ≤ 2 ^ 971 := pow_le_pow_right₀ one_le_two (by decide)
  rw [edge_eq] at hexact ⊢
  generalize (2 : Rat) ^ 971 = unit at hexact hunit ⊢
  have hsum : v - exact x ≤ 2 ^ 64 + (2 ^ 53 * unit - unit) := by linarith
  have hround := (nearest_mono hsum).trans (nearest_le _)
  rw [abs_of_nonneg (by linarith)] at hround
  linarith

theorem IsAt.not_isFinite (h : IsAt x edge) : ¬ isFinite x = true := fun hfinite =>
  (abs_lt.mp (abs_exact_lt hfinite)).2.ne' (h.eq_exact hfinite)

/-! ## Whole numbers -/

theorem nearest_intCast {n : Int} (h : |n| < 2 ^ 53) : nearest n = n := by
  have hrounded : rounded n.natAbs = n.natAbs := rounded_natCast (by rw [abs_lt] at h; omega)
  obtain hneg | hnonneg := lt_or_ge n 0
  · have hvalue : ((n.natAbs : Nat) : Rat) = -n := by
      rw [Nat.cast_natAbs, abs_of_neg hneg, Int.cast_neg]
    rw [hvalue] at hrounded
    rw [nearest, if_pos (Int.cast_lt_zero.mpr hneg), hrounded, neg_neg]
  · have hvalue : ((n.natAbs : Nat) : Rat) = n := by
      rw [Nat.cast_natAbs, abs_of_nonneg hnonneg]
    rw [hvalue] at hrounded
    rw [nearest, if_neg (Int.cast_nonneg hnonneg).not_gt, hrounded]

theorem abs_intCast_lt_edge {n : Int} (h : |n| < 2 ^ 53) : |(n : Rat)| < edge := by
  have hlt : (|n| : Rat) < 2 ^ 53 := by exact_mod_cast h
  exact hlt.trans (lt_trans (by norm_num) two_pow_lt_edge)

/-- Whole numbers of 53 digits are floats. -/
theorem isAt_intCast {n : Int} (h : |n| < 2 ^ 53) : IsAt (Float.ofInt n) n := by
  have hplace := isAt_ofInt n
  rwa [nearest_intCast h, held_of_abs_le (abs_intCast_lt_edge h).le] at hplace

theorem exact_ofInt {n : Int} (h : |n| < 2 ^ 53) :
    isFinite (Float.ofInt n) = true ∧ exact (Float.ofInt n) = n :=
  have hplace := isAt_intCast h
  have hfinite := hplace.isFinite_of_lt (abs_intCast_lt_edge h)
  ⟨hfinite, (hplace.eq_exact hfinite).symm⟩

/-! ## Places in order -/

/-- **Floats are in the order of their places**, the infinities among them. -/
theorem IsAt.lt_iff (hx : IsAt x v) (hy : IsAt y w) : x < y ↔ v < w := by
  obtain hx' | ⟨sign, hunpack, rfl⟩ := hx.finite_or <;>
    obtain hy' | ⟨sign', hunpack', rfl⟩ := hy.finite_or
  · rw [lt_iff_exact_lt hx' hy', hx.eq_exact hx', hy.eq_exact hy']
  · have hends := abs_lt.mp (hx.eq_exact hx' ▸ abs_exact_lt hx')
    rw [lt_iff_of_not_finite hx' (not_finite_of_infinity hunpack'), hunpack']
    cases sign' with
    | negative => exact iff_of_false (by rintro ⟨⟩) hends.1.not_gt
    | positive => exact iff_of_true rfl hends.2
  · have hends := abs_lt.mp (hy.eq_exact hy' ▸ abs_exact_lt hy')
    rw [not_finite_lt_iff hy' (not_finite_of_infinity hunpack), hunpack]
    cases sign with
    | negative => exact iff_of_true rfl hends.1
    | positive => exact iff_of_false (by rintro ⟨⟩) hends.2.not_gt
  · have hedge := edge_pos
    have hopposite : -edge < edge := by linarith
    change decide (x.toModel.unpack.lt y.toModel.unpack = true) = true ↔ _
    rw [hunpack, hunpack']
    cases sign <;> cases sign'
    · exact iff_of_false Bool.false_ne_true (lt_irrefl _)
    · exact iff_of_true rfl hopposite
    · exact iff_of_false Bool.false_ne_true hopposite.not_gt
    · exact iff_of_false Bool.false_ne_true (lt_irrefl _)

/-- Of two floats the one that is not less stands at the greater place. -/
theorem IsAt.max (hx : IsAt x v) (hy : IsAt y w) :
    IsAt (if x < y then y else x) (Max.max v w) := by
  split_ifs with hlt
  · rwa [max_eq_right ((hx.lt_iff hy).mp hlt).le]
  · rwa [max_eq_left (not_lt.mp (mt (hx.lt_iff hy).mpr hlt))]

theorem ceil_eq_ceil (negative : Bool) (m : Nat) (e : Int) : Binary.ceil negative m e
    = ⌈if negative then -magnitude m e else magnitude m e⌉ := by
  rw [Binary.ceil, floor_eq_floor]
  cases negative <;> simp [Int.floor_neg, Int.ceil_neg]

/-- A float with an exponent that is not negative is a whole number. -/
theorem magnitude_of_nonneg (m : Nat) {e : Int} (he : 0 ≤ e) :
    magnitude m e = (m * 2 ^ e.toNat : Nat) := by
  rw [magnitude, ← Int.toNat_of_nonneg he, zpow_natCast, Int.toNat_natCast]
  push_cast
  rfl

/-- The others have less than 53 digits before the point. -/
theorem magnitude_le_of_neg {m : Nat} {e : Int} (hfits : Fits m e) (he : e < 0) :
    magnitude m e ≤ 2 ^ 52 := by
  have hm : (m : Rat) ≤ 2 ^ 53 := by exact_mod_cast hfits.mantissa_lt.le
  calc magnitude m e ≤ 2 ^ 53 * 2 ^ (-1 : Int) :=
        mul_le_mul hm (zpow_le_zpow_right₀ one_le_two (by omega)) (unit_pos e).le (by positivity)
    _ = 2 ^ 52 := by norm_num

theorem abs_ceil_le {k : Int} (h : |v| ≤ k) : |⌈v⌉| ≤ k := by
  rw [abs_le, ← Int.cast_neg] at h
  exact abs_le.mpr ⟨Int.cast_le.mp (h.1.trans (Int.le_ceil v)), Int.ceil_le.mpr h.2⟩

/-- **Rounding up a float is rounding up its place.** -/
theorem IsAt.ceil (h : IsAt x v) : IsAt (Float64.ceil x) ⌈v⌉ := by
  have hwhole : ∀ k : Int, v = k → IsAt x ⌈v⌉ := by
    rintro k rfl
    rwa [Int.ceil_intCast]
  obtain hfinite | ⟨sign, hunpack, hsigned⟩ := h.finite_or
  · obtain ⟨negative, m, e, hvalue⟩ := exists_ofFloat_eq hfinite
    have hv := h.eq_exact hfinite
    have habs := abs_exact_eq hvalue
    rw [← hv] at habs
    rw [exact, hvalue] at hv
    dsimp only at hv
    rw [Float64.ceil, hvalue]
    dsimp only
    split_ifs with he
    · have hsmall : |v| ≤ ((2 ^ 52 : Int) : Rat) := by
        rw [habs, Int.cast_pow, Int.cast_ofNat]
        exact magnitude_le_of_neg (fits_of_ofFloat hvalue) he
      rw [ceil_eq_ceil, ← hv]
      exact isAt_intCast ((abs_ceil_le hsmall).trans_lt (by decide))
    · rw [magnitude_of_nonneg m (not_lt.mp he)] at hv
      cases negative with
      | true => exact hwhole (-(m * 2 ^ e.toNat : Nat)) (hv.trans (by push_cast; rfl))
      | false => exact hwhole (m * 2 ^ e.toNat : Nat) (hv.trans (by push_cast; rfl))
  · have hceil : Float64.ceil x = x := by
      rw [Float64.ceil, ofFloat_eq, hunpack]
      rfl
    have hedge : edge = ((2 ^ 1024 : Int) : Rat) := by rw [edge, Int.cast_pow, Int.cast_ofNat]
    rw [hceil]
    cases sign with
    | positive => exact hwhole (2 ^ 1024) (hsigned.trans hedge)
    | negative =>
      exact hwhole (-2 ^ 1024) (hsigned.trans (by rw [Int.cast_neg, ← hedge]; rfl))

/-! ## Parts before a power of two -/

section Parts

variable {k : Nat}

theorem IsAt.floor_lt (h : IsAt x v) (hlt : v < 2 ^ k) : (floor x).toInt < 2 ^ k := by
  have hfloor : ⌊v⌋ < 2 ^ k := Int.floor_lt.mpr (by exact_mod_cast hlt)
  have hpos : (0 : Int) < 2 ^ k := by positivity
  rw [h.floor_eq, toInt_ofIntClamp]
  omega

/-- The last float before a power of two. -/
theorem nearest_before_two_pow (k : Nat) :
    nearest (2 ^ k - 2 ^ k / 2 ^ 53) = 2 ^ k - 2 ^ k / 2 ^ 53 := by
  have hmagnitude : (2 : Rat) ^ k - 2 ^ k / 2 ^ 53 = magnitude (2 ^ 53 - 1) (k - 53) := by
    have hmantissa : ((2 ^ 53 - 1 : Nat) : Rat) = 2 ^ 53 - 1 := by norm_num
    have hunit : (2 : Rat) ^ ((k : Int) - 53) = 2 ^ k / 2 ^ 53 := by
      rw [zpow_sub₀ two_ne_zero, zpow_natCast]
      rfl
    rw [magnitude, hmantissa, hunit]
    ring
  rw [hmagnitude]
  exact nearest_magnitude .positive (by decide) ⟨by decide, by omega, fun _ => by decide⟩

/-- **A quotient that lies before a power of two by more than half of its last digit is rounded to a
number before it.** -/
theorem floor_div_lt (hx : isFinite x = true) (hy : isFinite y = true) (hpos : 0 < exact y)
    (hk : k ≤ 31) (h : exact x ≤ (2 ^ k - 2 ^ k / 2 ^ 53) * exact y) :
    (floor (x / y)).toInt < 2 ^ k := by
  have hpower : (0 : Rat) < 2 ^ k := by positivity
  have hgreatest : (2 : Rat) ^ k ≤ 2 ^ 31 := pow_le_pow_right₀ one_le_two hk
  have hheld : held (2 ^ k - 2 ^ k / 2 ^ 53) = 2 ^ k - 2 ^ k / 2 ^ 53 := by
    refine held_of_abs_le ?_
    rw [abs_of_nonneg (by linarith)]
    linarith [two_pow_lt_edge]
  have hquotient := held_mono (nearest_mono ((div_le_iff₀ hpos).mpr h))
  rw [nearest_before_two_pow, hheld] at hquotient
  refine (IsAt.div hx hy hpos.ne').floor_lt (hquotient.trans_lt ?_)
  linarith

end Parts

end ZGrid.Float64
