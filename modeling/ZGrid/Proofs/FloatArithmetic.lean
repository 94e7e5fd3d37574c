import ZGrid.Proofs.FloatPlace

/-!
# Proofs/FloatArithmetic — arithmetic rounds

A product, a difference or a quotient of finite floats stands at the fraction nearest to the exact
one, held between the ends (`IsAt.mul`, `IsAt.sub`, `IsAt.div`):

```
   ┼────────┼────────┼──○─────┼────────┼       exact x - exact y
                     ●                         x - y
```
-/

namespace ZGrid.Float64

open Binary Float.Model Float.Model.UnpackedFloat

variable {m m₁ m₂ : Nat} {e e₁ e₂ : Int} {x y : Float} {v w : Rat}

/-! ## Magnitudes -/

theorem log_magnitude (hpos : 0 < m) (e : Int) : Int.log 2 (magnitude m e) = m.log2 + e :=
  log_mul_unit hpos le_rfl (lt_add_one _) e

theorem place_magnitude (hpos : 0 < m) (e : Int) :
    place (magnitude m e) = max (m.log2 + e - 52) (-1074) := by
  rw [place, log_magnitude hpos]

theorem magnitude_mul (m₁ m₂ : Nat) (e₁ e₂ : Int) :
    magnitude (m₁ * m₂) (e₁ + e₂) = magnitude m₁ e₁ * magnitude m₂ e₂ := by
  rw [magnitude, magnitude, magnitude, Nat.cast_mul, zpow_add₀ two_ne_zero]
  ring

theorem shiftLeft_pos (hpos : 0 < m) (places : Nat) : 0 < m <<< places := by
  rw [Nat.shiftLeft_eq]
  exact Nat.mul_pos hpos (Nat.pow_pos two_pos)

/-- Digits that are added to a mantissa are taken from the exponent. -/
theorem magnitude_shift (m places : Nat) (e : Int) :
    magnitude (m <<< places) (e - places) = magnitude m e := by
  rw [magnitude, magnitude, Nat.shiftLeft_eq, zpow_sub₀ two_ne_zero, zpow_natCast]
  push_cast
  field_simp

theorem magnitude_decrease {t : Int} (h : t ≤ e) :
    magnitude (m <<< (e - t).toNat) t = magnitude m e := by
  rw [← magnitude_shift m (e - t).toNat e, Int.toNat_of_nonneg (Int.sub_nonneg.mpr h),
    sub_sub_cancel]

/-- **A magnitude of a float is not changed.** -/
theorem rounded_magnitude (hpos : 0 < m) (hfits : Fits m e) :
    rounded (magnitude m e) = magnitude m e := by
  have hplace : place (magnitude m e) = e := by
    have hlog : m.log2 < 53 := (Nat.log2_lt hpos.ne').mpr hfits.mantissa_lt
    have hge := hfits.exponent_ge
    rw [place_magnitude hpos]
    obtain heq | hgt := hge.eq_or_lt
    · omega
    · have hlast : 52 ≤ m.log2 := (Nat.le_log2 hpos.ne').mpr (hfits.mantissa_ge hgt)
      omega
  rw [rounded, hplace, magnitude, mul_div_cancel_right₀ _ (unit_pos e).ne', nearestEven_natCast]

theorem nearest_magnitude (sign : Sign) (hpos : 0 < m) (hfits : Fits m e) :
    nearest (signed sign (magnitude m e)) = signed sign (magnitude m e) := by
  rw [nearest_signed sign (magnitude_nonneg m e), rounded_magnitude hpos hfits]

/-! ## Rounding of mantissas -/

/-- A product is not shifted past its units. -/
theorem le_place_mul (hpos₁ : 0 < m₁) (hpos₂ : 0 < m₂) (h₁ : Fits m₁ e₁) (h₂ : Fits m₂ e₂) :
    e₁ + e₂ ≤ place (magnitude (m₁ * m₂) (e₁ + e₂)) := by
  rw [place_magnitude (Nat.mul_pos hpos₁ hpos₂)]
  have hge₁ := h₁.exponent_ge
  have hge₂ := h₂.exponent_ge
  by_cases hleast : e₁ = -1074 ∧ e₂ = -1074
  · omega
  · have hproduct : 2 ^ 52 ≤ m₁ * m₂ := by
      obtain h | h : -1074 < e₁ ∨ -1074 < e₂ := by omega
      · exact (h₁.mantissa_ge h).trans (Nat.le_mul_of_pos_right m₁ hpos₂)
      · exact (h₂.mantissa_ge h).trans (Nat.le_mul_of_pos_left m₂ hpos₁)
    have hlog := (Nat.le_log2 (Nat.mul_pos hpos₁ hpos₂).ne').mpr hproduct
    omega

theorem denotes_exact (sign : Sign) (hpos : 0 < m) (he : e ≤ place (magnitude m e)) :
    Denotes (roundWithAccuracy Format.binary64 sign m e .exact)
      (signed sign (rounded (magnitude m e))) :=
  denotes_roundWithAccuracy sign (stands_exact m) (Nat.cast_pos.mpr hpos) he

/-- **A mantissa of any number of digits is rounded.** -/
theorem denotes_round (sign : Sign) (hpos : 0 < m) (e : Int) :
    Denotes (UnpackedFloat.round Format.binary64 sign m e)
      (signed sign (rounded (magnitude m e))) := by
  rw [UnpackedFloat.round, targetExponent_eq, ← place_magnitude hpos]
  generalize hp : place (magnitude m e) = p
  change Denotes (roundWithAccuracy _ sign (m <<< (e - p).toNat) (e - (e - p).toNat) .exact) _
  rw [← magnitude_shift m (e - p).toNat e] at hp ⊢
  exact denotes_exact sign (shiftLeft_pos hpos _) (by omega)

theorem signed_apply (sign : Sign) (m : Nat) (e : Int) :
    (sign.apply m : Rat) * 2 ^ e = signed sign (magnitude m e) := by
  cases sign with
  | positive => exact congrArg (· * 2 ^ e) (Int.cast_natCast m)
  | negative =>
    change ((-(m : Int) : Int) : Rat) * 2 ^ e = -(m * 2 ^ e)
    rw [Int.cast_neg, Int.cast_natCast, neg_mul]

/-- The nearest float of a whole number of units. -/
theorem denotes_normalize (n e : Int) (sign : Sign) :
    Denotes (UnpackedFloat.normalize Format.binary64 n e sign) (nearest (n * 2 ^ e)) := by
  obtain hneg | rfl | hpos := lt_trichotomy n 0
  · have hn : n = Sign.apply .negative (-n).toNat := by
      change n = -((-n).toNat : Int)
      omega
    have hvalue := signed_apply .negative (-n).toNat e
    rw [← hn] at hvalue
    rw [UnpackedFloat.normalize, compare_lt_iff_lt.mpr hneg, hvalue,
      nearest_signed _ (magnitude_nonneg _ _)]
    exact denotes_round .negative (by omega) e
  · rw [Int.cast_zero, zero_mul, nearest_zero]
    exact .zero sign
  · have hn : n = Sign.apply .positive n.toNat := by
      change n = (n.toNat : Int)
      omega
    have hvalue := signed_apply .positive n.toNat e
    rw [← hn] at hvalue
    rw [UnpackedFloat.normalize, compare_gt_iff_gt.mpr hpos, hvalue,
      nearest_signed _ (magnitude_nonneg _ _)]
    exact denotes_round .positive (by omega) e

/-! ## Products, differences, quotients -/

theorem exact_eq_signed {sign : Sign} (h : exact x = if isNegative sign then -magnitude m e
    else magnitude m e) : exact x = signed sign (magnitude m e) := h

/-- **A product is rounded.** -/
theorem IsAt.mul (hx : isFinite x = true) (hy : isFinite y = true) :
    IsAt (x * y) (held (nearest (exact x * exact y))) := by
  refine IsAt.of_denotes (f := UnpackedFloat.mul Format.binary64 x.toModel.unpack y.toModel.unpack)
    rfl ?_
  obtain ⟨s₁, h₁, hexact₁⟩ | ⟨s₁, m₁, e₁, hpos₁, hfits₁, h₁, hexact₁⟩ := cases_of_isFinite hx <;>
    obtain ⟨s₂, h₂, hexact₂⟩ | ⟨s₂, m₂, e₂, hpos₂, hfits₂, h₂, hexact₂⟩ := cases_of_isFinite hy
  · rw [h₁, h₂, hexact₁, zero_mul, nearest_zero]
    exact .zero _
  · rw [h₁, h₂, hexact₁, zero_mul, nearest_zero]
    exact .zero _
  · rw [h₁, h₂, hexact₂, mul_zero, nearest_zero]
    exact .zero _
  · rw [h₁, h₂, exact_eq_signed hexact₁, exact_eq_signed hexact₂, ← signed_mul, ← magnitude_mul,
      nearest_signed _ (magnitude_nonneg _ _)]
    exact denotes_exact _ (Nat.mul_pos hpos₁ hpos₂) (le_place_mul hpos₁ hpos₂ hfits₁ hfits₂)

/-- **A difference is rounded.** -/
theorem IsAt.sub (hx : isFinite x = true) (hy : isFinite y = true) :
    IsAt (x - y) (held (nearest (exact x - exact y))) := by
  refine IsAt.of_denotes (f := UnpackedFloat.sub Format.binary64 x.toModel.unpack y.toModel.unpack)
    rfl ?_
  obtain ⟨s₁, h₁, hexact₁⟩ | ⟨s₁, m₁, e₁, hpos₁, hfits₁, h₁, hexact₁⟩ := cases_of_isFinite hx <;>
    obtain ⟨s₂, h₂, hexact₂⟩ | ⟨s₂, m₂, e₂, hpos₂, hfits₂, h₂, hexact₂⟩ := cases_of_isFinite hy
  · rw [h₁, h₂, hexact₁, hexact₂, sub_zero, nearest_zero]
    change Denotes (if s₁ == -s₂ then _ else _) 0
    split <;> exact .zero _
  · rw [h₁, h₂, hexact₁, exact_eq_signed hexact₂, zero_sub, ← signed_neg,
      nearest_magnitude _ hpos₂ hfits₂]
    exact .finite _ hpos₂ hfits₂
  · rw [h₁, h₂, hexact₂, exact_eq_signed hexact₁, sub_zero, nearest_magnitude _ hpos₁ hfits₁]
    exact .finite _ hpos₁ hfits₁
  · have hdifference := denotes_normalize (s₁.apply (m₁ <<< (e₁ - min e₁ e₂).toNat : Nat)
      - s₂.apply (m₂ <<< (e₂ - min e₁ e₂).toNat : Nat)) (min e₁ e₂) .positive
    rw [Int.cast_sub, sub_mul, signed_apply, signed_apply, magnitude_decrease (min_le_left e₁ e₂),
      magnitude_decrease (min_le_right e₁ e₂), ← exact_eq_signed hexact₁,
      ← exact_eq_signed hexact₂] at hdifference
    rw [h₁, h₂]
    exact hdifference

/-- A quotient has at most one digit less than the lengths tell. -/
theorem log_div_ge {u v : Rat} (hu : 0 < u) (hv : 0 < v) :
    Int.log 2 u - Int.log 2 v - 1 ≤ Int.log 2 (u / v) := by
  refine (Int.zpow_le_iff_le_log one_lt_two (div_pos hu hv)).mp ?_
  rw [le_div_iff₀ hv]
  calc ((2 : Nat) : Rat) ^ (Int.log 2 u - Int.log 2 v - 1) * v
      ≤ (2 : Nat) ^ (Int.log 2 u - Int.log 2 v - 1) * (2 : Nat) ^ (Int.log 2 v + 1) :=
        mul_le_mul_of_nonneg_left (Int.lt_zpow_succ_log_self one_lt_two v).le (by positivity)
    _ = (2 : Nat) ^ Int.log 2 u := by
        rw [Nat.cast_two, ← zpow_add₀ two_ne_zero]
        congr 1
        ring
    _ ≤ u := Int.zpow_log_le_self one_lt_two hu

theorem denotes_div (s₁ s₂ : Sign) (hpos₁ : 0 < m₁) (hpos₂ : 0 < m₂) :
    Denotes (UnpackedFloat.div Format.binary64 (.finite s₁ m₁ e₁ hpos₁) (.finite s₂ m₂ e₂ hpos₂))
      (signed (s₁ / s₂) (rounded (magnitude m₁ e₁ / magnitude m₂ e₂))) := by
  have hlog := log_div_ge (magnitude_pos hpos₁ e₁) (magnitude_pos hpos₂ e₂)
  rw [log_magnitude hpos₁, log_magnitude hpos₂] at hlog
  change Denotes (roundWithAccuracy Format.binary64 (s₁ / s₂)
    (divCore Format.binary64 m₁ e₁ m₂ e₂).1 (divCore Format.binary64 m₁ e₁ m₂ e₂).2.1
    (divCore Format.binary64 m₁ e₁ m₂ e₂).2.2) _
  rw [divCore]
  dsimp only
  generalize htarget : min (e₁ - e₂) (Format.binary64.targetExponent
    (totalExponent m₁ e₁ - totalExponent m₂ e₂)) = t
  have hle : t ≤ e₁ - e₂ := htarget ▸ min_le_left _ _
  have hplace : t ≤ place (magnitude m₁ e₁ / magnitude m₂ e₂) := by
    rw [Format.targetExponent, totalExponent, totalExponent] at htarget
    change min _ (max (_ - 53) (-1074)) = t at htarget
    rw [place]
    omega
  have hquotient : magnitude m₁ e₁ / magnitude m₂ e₂
      = ((m₁ <<< (e₁ - e₂ - t).toNat : Nat) : Rat) / m₂ * 2 ^ t := by
    have hexponent : e₁ - (e₁ - e₂ - t).toNat = t + e₂ := by omega
    rw [← magnitude_shift m₁ (e₁ - e₂ - t).toNat e₁, hexponent, magnitude, magnitude,
      zpow_add₀ two_ne_zero]
    field_simp
  rw [hquotient] at hplace ⊢
  refine denotes_roundWithAccuracy (s₁ / s₂) (stands_fraction _ hpos₂) (div_pos ?_ ?_) hplace
  · exact Nat.cast_pos.mpr (shiftLeft_pos hpos₁ _)
  · exact Nat.cast_pos.mpr hpos₂

/-- **A quotient is rounded.** -/
theorem IsAt.div (hx : isFinite x = true) (hy : isFinite y = true) (hzero : exact y ≠ 0) :
    IsAt (x / y) (held (nearest (exact x / exact y))) := by
  refine IsAt.of_denotes (f := UnpackedFloat.div Format.binary64 x.toModel.unpack y.toModel.unpack)
    rfl ?_
  obtain ⟨s₂, h₂, hexact₂⟩ | ⟨s₂, m₂, e₂, hpos₂, hfits₂, h₂, hexact₂⟩ := cases_of_isFinite hy
  · exact absurd hexact₂ hzero
  obtain ⟨s₁, h₁, hexact₁⟩ | ⟨s₁, m₁, e₁, hpos₁, hfits₁, h₁, hexact₁⟩ := cases_of_isFinite hx
  · rw [h₁, h₂, hexact₁, zero_div, nearest_zero]
    exact .zero _
  · rw [h₁, h₂, exact_eq_signed hexact₁, exact_eq_signed hexact₂, ← signed_div,
      nearest_signed _ (div_nonneg (magnitude_nonneg _ _) (magnitude_nonneg _ _))]
    exact denotes_div s₁ s₂ hpos₁ hpos₂

/-! ## Signs -/

theorem Denotes.neg {f : UnpackedFloat} (h : Denotes f v) : Denotes f.neg (-v) := by
  cases h with
  | zero sign => exact neg_zero (G := Rat) ▸ .zero (-sign)
  | finite sign hpos hfits => exact signed_neg sign _ ▸ .finite (-sign) hpos hfits
  | infinity sign => exact signed_neg sign _ ▸ .infinity (-sign)

/-- The sign of a float is changed without rounding. -/
theorem IsAt.neg (h : IsAt x (held v)) : IsAt (-x) (held (-v)) := by
  have hneg := IsAt.of_denotes (x := -x) rfl (Denotes.neg h)
  rwa [held_neg, held_held, ← held_neg] at hneg

end ZGrid.Float64
