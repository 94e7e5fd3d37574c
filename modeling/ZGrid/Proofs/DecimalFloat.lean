import ZGrid.Number.Numeral
import ZGrid.Proofs.FloatArithmetic

/-!
# Proofs/DecimalFloat — the float of a decimal number

A decimal number `c · 10 ^ s` is read as the float nearest to it, however long it is
(`isAt_nearest`, `Numeral.isAt_toFloat`).  Where its first digit stands tells how it is read:

```
          -330                            310          digits of c, plus s
   ────────┼───────────────────────────────┼────────
     zero      c / 10 ^ -s     c · 10 ^ s      infinity
```

What is cut off at the ends would be rounded to zero or past the greatest float, and what is left is
one product or one quotient, of floats if `c` and the power of ten are floats themselves.
-/

namespace ZGrid

namespace Float64

open Binary Float.Model Float.Model.UnpackedFloat

variable {n c : Nat} {s : Int} {u v : Rat}

/-! ## Fractions whose rounding is known -/

theorem magnitude_zero_right (n : Nat) : magnitude n 0 = n := by
  rw [magnitude, zpow_zero, mul_one]

/-- Whole numbers of 53 digits are not changed. -/
theorem rounded_natCast (h : n < 2 ^ 53) : rounded n = n := by
  obtain rfl | hpos := n.eq_zero_or_pos
  · exact_mod_cast rounded_zero
  have hplace : place n ≤ 0 := by
    have hlog : n.log2 < 53 := (Nat.log2_lt hpos.ne').mpr h
    rw [← magnitude_zero_right, place_magnitude hpos]
    omega
  have hunits : (n : Rat) / 2 ^ place n = ((n * 2 ^ (-place n).toNat : Nat) : Rat) := by
    rw [Nat.cast_mul, Nat.cast_pow, Nat.cast_two, ← zpow_natCast (2 : Rat),
      Int.toNat_of_nonneg (Int.neg_nonneg.mpr hplace), zpow_neg, div_eq_mul_inv]
  rw [rounded, hunits, nearestEven_natCast, ← hunits, div_mul_cancel₀ _ (unit_pos _).ne']

/-- Half of the smallest unit goes to zero, the even one of its two neighbours. -/
theorem rounded_of_le (hu : 0 ≤ u) (h : u ≤ 2 ^ (-1075 : Int)) : rounded u = 0 := by
  have hmagnitude : (2 : Rat) ^ (-1075 : Int) = magnitude 1 (-1075) := by
    rw [magnitude, Nat.cast_one, one_mul]
  have hplace : place (magnitude 1 (-1075)) = -1074 := by
    rw [place_magnitude one_pos]
    decide
  have hunit : magnitude 1 (-1075) / 2 ^ (-1074 : Int) = 1 / 2 := by
    rw [magnitude, Nat.cast_one, one_mul, ← zpow_sub₀ two_ne_zero]
    norm_num
  have heven : nearestEven (1 / 2) = 0 := by
    rw [nearestEven, Nat.floor_eq_zero.mpr (by norm_num)]
    norm_num
  have hhalf : rounded (2 ^ (-1075 : Int)) = 0 := by
    rw [hmagnitude, rounded, hplace, hunit, heven, Nat.cast_zero, zero_mul]
  exact ((rounded_mono hu h).trans_eq hhalf).antisymm (rounded_nonneg u)

/-- Powers of two are not changed. -/
theorem nearest_two_pow (sign : Sign) {k : Nat} (h : 52 ≤ k) :
    nearest (signed sign (2 ^ k)) = signed sign (2 ^ k) := by
  have hmagnitude : (2 : Rat) ^ k = magnitude (2 ^ 52) (k - 52) := by
    rw [magnitude, Nat.cast_pow, Nat.cast_two, ← zpow_natCast, ← zpow_natCast,
      ← zpow_add₀ two_ne_zero]
    congr 1
    omega
  rw [hmagnitude]
  exact nearest_magnitude sign (by decide) ⟨by decide, by omega, fun _ => le_rfl⟩

/-- What lies past the end goes to the end. -/
theorem held_nearest_of_ge (h : edge ≤ v) : held (nearest v) = edge := by
  have hnearest : nearest edge = edge := nearest_two_pow .positive (by decide)
  exact held_signed_of_ge .positive (hnearest.symm.trans_le (nearest_mono h))

/-- Whole numbers of 64 bits are not rounded past `2 ^ 64`. -/
theorem abs_nearest_le (h : |v| ≤ 2 ^ 64) : |nearest v| ≤ 2 ^ 64 := by
  have hhigh : nearest (2 ^ 64) = 2 ^ 64 := nearest_two_pow .positive (by decide)
  have hlow : nearest (-2 ^ 64) = -2 ^ 64 := nearest_two_pow .negative (by decide)
  rw [abs_le] at h ⊢
  exact ⟨hlow ▸ nearest_mono h.1, hhigh ▸ nearest_mono h.2⟩

/-! ## Decimal fractions -/

/-- The fraction `coefficient · 10 ^ scale`. -/
def decimal (coefficient : Nat) (scale : Int) : Rat := coefficient * 10 ^ scale

theorem decimal_nonneg (c : Nat) (s : Int) : 0 ≤ decimal c s :=
  mul_nonneg (Nat.cast_nonneg c) (by positivity)

theorem decimal_natCast (c places : Nat) : decimal c places = (c * 10 ^ places : Nat) := by
  rw [decimal, zpow_natCast]
  push_cast
  rfl

theorem decimal_neg (c places : Nat) : decimal c (-places) = (c : Rat) / (10 ^ places : Nat) := by
  rw [decimal, zpow_neg, zpow_natCast, div_eq_mul_inv]
  push_cast
  rfl

/-- Zeros that are added to a coefficient are taken from the scale. -/
theorem decimal_shift (c places : Nat) (s : Int) :
    decimal (c * 10 ^ places) (s - places) = decimal c s := by
  rw [decimal, decimal, zpow_sub₀ (by norm_num), zpow_natCast]
  push_cast
  field_simp

theorem decimal_le (c : Nat) (s : Int) :
    decimal c s ≤ 10 ^ ((Nat.toDigits 10 c).length + s) := by
  have hc : c < 10 ^ (Nat.toDigits 10 c).length :=
    (Nat.length_toDigits_le_iff (by decide) Nat.length_toDigits_pos).mp le_rfl
  rw [decimal, zpow_add₀ (by norm_num), zpow_natCast]
  exact mul_le_mul_of_nonneg_right (by exact_mod_cast hc.le) (by positivity)

theorem le_decimal (hpos : 0 < c) (s : Int) :
    10 ^ ((Nat.toDigits 10 c).length + s - 1) ≤ decimal c s := by
  obtain ⟨more, hmore⟩ : ∃ more, (Nat.toDigits 10 c).length = more + 1 :=
    Nat.exists_eq_add_one.mpr Nat.length_toDigits_pos
  have hc : 10 ^ more ≤ c := by
    obtain rfl | hpositive := more.eq_zero_or_pos
    · exact hpos
    · refine not_lt.mp fun hlt => ?_
      have hshort := (Nat.length_toDigits_le_iff (b := 10) (by decide) hpositive).mpr hlt
      omega
  have hscale : ((Nat.toDigits 10 c).length : Int) + s - 1 = more + s := by omega
  rw [decimal, hscale, zpow_add₀ (by norm_num), zpow_natCast]
  exact mul_le_mul_of_nonneg_right (by exact_mod_cast hc) (by positivity)

/-! ## Products and quotients with powers of ten -/

theorem denotes_ofScientific (hpos : 0 < c) (hlow : -(2048 + c.log2 : Int) ≤ s) (hhigh : s ≤ 2048) :
    Denotes (UnpackedFloat.ofScientific Format.binary64 c s) (rounded (decimal c s)) := by
  have hbits : (2 : Int) ^ Format.binary64.exponentBits = 2048 := rfl
  rw [UnpackedFloat.ofScientific, dif_neg hpos.ne', hbits, if_neg (not_lt.mpr hhigh),
    if_neg (not_lt.mpr hlow)]
  by_cases hs : 0 ≤ s
  · rw [if_pos hs]
    obtain ⟨places, rfl⟩ := Int.eq_ofNat_of_zero_le hs
    have hten : 0 < 10 ^ places := Nat.pow_pos (by decide)
    -- The coefficient is multiplied as `c · 2 ^ 53 · 2 ^ -53`.
    have hvalue : magnitude (c <<< 53 * 10 ^ places) (-53 + 0) = decimal c places := by
      rw [magnitude_mul, show (-53 : Int) = 0 - (53 : Nat) from rfl, magnitude_shift,
        magnitude_zero_right, magnitude_zero_right, decimal_natCast, Nat.cast_mul]
    have hplace : (-53 + 0 : Int) ≤ place (magnitude (c <<< 53 * 10 ^ places) (-53 + 0)) := by
      rw [hvalue, decimal_natCast, ← magnitude_zero_right, place_magnitude (Nat.mul_pos hpos hten)]
      omega
    have h := denotes_exact .positive (Nat.mul_pos (shiftLeft_pos hpos 53) hten) hplace
    rw [hvalue] at h
    exact h
  · rw [if_neg hs]
    have hvalue : decimal c s = (c : Rat) / (10 ^ (-s).toNat : Nat) := by
      rw [← decimal_neg, Int.toNat_of_nonneg (by omega), neg_neg]
    have hten : 0 < 10 ^ (-s).toNat := Nat.pow_pos (by decide)
    have h := @denotes_div c _ 0 0 .positive .positive hpos hten
    rw [magnitude_zero_right, magnitude_zero_right, ← hvalue] at h
    exact h

/-- The first powers of ten are floats. -/
theorem exact_powersOfTen : ∀ e, ∀ _ : e < Float.exactlyRepresentablePowersOfTen.size,
    isFinite Float.exactlyRepresentablePowersOfTen[e] = true
      ∧ exact Float.exactlyRepresentablePowersOfTen[e] = 10 ^ e := by
  decide +kernel

theorem abs_natCast_lt_edge (h : n < 2 ^ 53) : |(n : Rat)| < edge := by
  rw [abs_of_nonneg (Nat.cast_nonneg n)]
  exact lt_trans (by exact_mod_cast h.trans (by decide)) two_pow_lt_edge

/-- So are the whole numbers of 53 digits. -/
theorem isAt_toFloat_toUInt64 (h : n < 2 ^ 53) : IsAt n.toUInt64.toFloat n := by
  have hword : n.toUInt64.toNat = n := Nat.mod_eq_of_lt (h.trans (by decide))
  have hdenotes := denotes_normalize n.toUInt64.toNat 0 .positive
  rw [hword, zpow_zero, mul_one, Int.cast_natCast, nearest, if_neg (Nat.cast_nonneg n).not_gt,
    rounded_natCast h] at hdenotes
  rw [← held_of_abs_le (abs_natCast_lt_edge h).le]
  exact IsAt.of_denotes (f := UnpackedFloat.ofUInt64 Format.binary64 n.toUInt64) rfl
    (by rwa [UnpackedFloat.ofUInt64, hword])

/-- A product or a quotient of two floats is rounded once. -/
theorem isAt_ofScientific_of_lt {e : Nat} (hc : c < 2 ^ 53) (he : e ≤ 22) (below : Bool) :
    IsAt (Float.ofScientific c below e)
      (held (nearest (decimal c (if below then -e else e)))) := by
  obtain ⟨hfinite, hexact⟩ := exact_powersOfTen e (Nat.lt_succ_of_le he)
  have hplace := isAt_toFloat_toUInt64 hc
  have hword := hplace.isFinite_of_lt (abs_natCast_lt_edge hc)
  rw [Float.ofScientific, dif_pos ⟨hc, he⟩]
  cases below with
  | true =>
    have h := IsAt.div hword hfinite (by rw [hexact]; positivity)
    rw [hexact, ← hplace.eq_exact hword] at h
    rw [if_pos rfl, if_pos rfl, decimal_neg, Nat.cast_pow]
    exact h
  | false =>
    have h := IsAt.mul hword hfinite
    rw [hexact, ← hplace.eq_exact hword] at h
    rw [if_neg (by decide), if_neg (by decide), decimal_natCast, Nat.cast_mul, Nat.cast_pow]
    exact h

/-- **A product or a quotient with a power of ten is rounded**, if the power is not so large that it
is not worked out. -/
theorem isAt_ofScientific {e : Nat} (hpos : 0 < c) (below : Bool)
    (he : e ≤ 2048 + if below then c.log2 else 0) : IsAt (Float.ofScientific c below e)
      (held (nearest (decimal c (if below then -e else e)))) := by
  by_cases hquick : c < 2 ^ 53 ∧ e ≤ 22
  · exact isAt_ofScientific_of_lt hquick.1 hquick.2 below
  have hscale : (if below then Int.negOfNat e else Int.ofNat e)
      = if below then -(e : Int) else e := by
    cases below with
    | true => exact Int.negOfNat_eq
    | false => rfl
  rw [Float.ofScientific, dif_neg hquick, hscale]
  refine IsAt.of_denotes (f := UnpackedFloat.ofScientific Format.binary64 c _) rfl ?_
  rw [nearest, if_neg (decimal_nonneg _ _).not_gt]
  split_ifs at he ⊢
  · exact denotes_ofScientific hpos (by omega) (by omega)
  · exact denotes_ofScientific hpos (by omega) (by omega)

/-! ## Whole numbers -/

theorem isAt_zero : IsAt 0 0 := exact_zero ▸ isAt_exact isFinite_zero

/-- **A whole number is rounded.** -/
theorem isAt_ofNat (n : Nat) : IsAt (Float.ofNat n) (held (nearest n)) := by
  obtain rfl | hpos := n.eq_zero_or_pos
  · rw [Nat.cast_zero, held_nearest_zero]
    exact isAt_zero
  · have h := isAt_ofScientific hpos false (e := 0) (Nat.zero_le _)
    rw [if_neg (by decide), decimal_natCast, pow_zero, Nat.mul_one] at h
    exact h

theorem isAt_ofInt (n : Int) : IsAt (Float.ofInt n) (held (nearest n)) := by
  cases n with
  | ofNat n => exact isAt_ofNat n
  | negSucc n =>
    have h := (isAt_ofNat n.succ).neg
    rw [← nearest_neg] at h
    rw [Int.cast_negSucc]
    exact h

/-! ## Decimal numbers of any length -/

theorem length_toDigits_le (c : Nat) : (Nat.toDigits 10 c).length ≤ c.log2 + 1 := by
  refine (Nat.length_toDigits_le_iff (by decide) (Nat.succ_pos _)).mpr ?_
  exact Nat.lt_log2_self.trans_le (Nat.pow_le_pow_left (by decide) _)

theorem isAt_infinity : IsAt (1.0 / 0.0) edge := by
  have hunpack : (1.0 / 0.0 : Float).toModel.unpack = .infinity .positive := rfl
  rw [IsAt, hunpack]
  exact .infinity .positive

theorem edge_le_ten_zpow : edge ≤ 10 ^ (310 : Int) := by
  rw [edge]
  exact_mod_cast (by decide +kernel : (2 : Nat) ^ 1024 ≤ 10 ^ 310)

theorem ten_zpow_le : (10 : Rat) ^ (-331 : Int) ≤ 2 ^ (-1075 : Int) := by
  rw [zpow_neg, zpow_neg]
  refine inv_anti₀ (by positivity) ?_
  exact_mod_cast (by decide +kernel : (2 : Nat) ^ 1075 ≤ 10 ^ 331)

/-- **A decimal number is read as the nearest float.** -/
theorem isAt_nearest (c : Nat) (s : Int) :
    IsAt (Numeral.nearest c s) (held (nearest (decimal c s))) := by
  obtain rfl | hpos := c.eq_zero_or_pos
  · rw [decimal, Nat.cast_zero, zero_mul, held_nearest_zero]
    exact isAt_zero
  have hlength := length_toDigits_le c
  rw [Numeral.nearest, if_neg hpos.ne']
  dsimp only
  split_ifs with hhigh hlow hneg
  · have hpast : edge ≤ decimal c s :=
      calc edge ≤ 10 ^ (310 : Int) := edge_le_ten_zpow
        _ ≤ 10 ^ ((Nat.toDigits 10 c).length + s - 1) :=
          zpow_le_zpow_right₀ (by norm_num) (by omega)
        _ ≤ decimal c s := le_decimal hpos s
    rw [held_nearest_of_ge hpast]
    exact isAt_infinity
  · have hsmall : decimal c s ≤ 2 ^ (-1075 : Int) :=
      calc decimal c s ≤ 10 ^ ((Nat.toDigits 10 c).length + s) := decimal_le c s
        _ ≤ 10 ^ (-331 : Int) := zpow_le_zpow_right₀ (by norm_num) (by omega)
        _ ≤ 2 ^ (-1075 : Int) := ten_zpow_le
    rw [nearest, if_neg (decimal_nonneg c s).not_gt, rounded_of_le (decimal_nonneg c s) hsmall,
      ← nearest_zero, held_nearest_zero]
    exact isAt_zero
  · have h := isAt_ofScientific hpos true (e := s.natAbs) (by rw [if_pos rfl]; omega)
    rwa [if_pos rfl, show -(s.natAbs : Int) = s by omega] at h
  · have h := isAt_ofScientific hpos false (e := s.natAbs) (by rw [if_neg (by decide)]; omega)
    rwa [if_neg (by decide), show (s.natAbs : Int) = s by omega] at h

end Float64

namespace Numeral

open Float64

/-- The fraction that a numeral stands for. -/
def value (n : Numeral) : Rat :=
  if n.negative then -decimal n.coefficient n.scale else decimal n.coefficient n.scale

/-- **A numeral is read as the nearest float.** -/
theorem isAt_toFloat (n : Numeral) : IsAt n.toFloat (held (Float64.nearest n.value)) := by
  have h := isAt_nearest n.coefficient n.scale
  rw [toFloat, value]
  cases n.negative with
  | true =>
    rw [if_pos rfl, if_pos rfl, nearest_neg]
    exact h.neg
  | false =>
    rw [if_neg (by decide), if_neg (by decide)]
    exact h

end Numeral

end ZGrid
