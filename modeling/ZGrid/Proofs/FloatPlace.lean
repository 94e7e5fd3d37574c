import ZGrid.Proofs.NearestFloat
import ZGrid.Proofs.RoundedFraction

/-!
# Proofs/FloatPlace — where a float stands

A float stands at a fraction, an infinity at the end of the floats:

```
   −∞                  finite floats                 +∞
   ●────┼──┼─┼┼┼┼┼┼┼┼┼┼┼┼┼┼┼┼┼┼┼┼┼┼┼┼┼─┼──┼────●
  −2 ^ 1024               0                     2 ^ 1024
```

What is packed into 64 bits is held between the ends (`Denotes.unpack_pack`).  The whole numbers
near a float are those near the place where it stands (`IsAt.floor_eq`, `IsAt.round_eq`).
-/

namespace ZGrid.Float64

open Binary Float.Model Float.Model.UnpackedFloat

/-! ## Signs -/

theorem signed_neg (sign : Sign) (u : Rat) : signed (-sign) u = -signed sign u := by
  cases sign
  · exact (neg_neg u).symm
  · rfl

theorem signed_mul (s₁ s₂ : Sign) (u v : Rat) :
    signed (s₁ * s₂) (u * v) = signed s₁ u * signed s₂ v := by
  cases s₁ <;> cases s₂
  · exact (neg_mul_neg u v).symm
  · exact (neg_mul u v).symm
  · exact (mul_neg u v).symm
  · rfl

theorem signed_div (s₁ s₂ : Sign) (u v : Rat) :
    signed (s₁ / s₂) (u / v) = signed s₁ u / signed s₂ v := by
  cases s₁ <;> cases s₂
  · exact (neg_div_neg_eq u v).symm
  · exact (neg_div v u).symm
  · exact (div_neg u).symm
  · rfl

/-- The nearest fraction that can be written with 53 digits and a sign. -/
def nearest (v : Rat) : Rat := if v < 0 then -rounded (-v) else rounded v

@[simp] theorem nearest_zero : nearest 0 = 0 := by
  rw [nearest, if_neg (lt_irrefl 0), rounded_zero]

theorem nearest_signed (sign : Sign) {u : Rat} (hu : 0 ≤ u) :
    nearest (signed sign u) = signed sign (rounded u) := by
  cases sign with
  | positive => exact if_neg hu.not_gt
  | negative =>
    change nearest (-u) = -rounded u
    obtain rfl | hu := hu.eq_or_lt
    · simp [nearest]
    · rw [nearest, if_pos (neg_neg_of_pos hu), neg_neg]

theorem nearest_mono {v w : Rat} (h : v ≤ w) : nearest v ≤ nearest w := by
  rw [nearest, nearest]
  split_ifs with hv hw
  · exact neg_le_neg (rounded_mono (by linarith) (by linarith))
  · exact (neg_nonpos.mpr (rounded_nonneg _)).trans (rounded_nonneg _)
  · linarith
  · exact rounded_mono (not_lt.mp hv) h

theorem nearest_neg (v : Rat) : nearest (-v) = -nearest v := by
  obtain h | rfl | h := lt_trichotomy v 0
  · rw [nearest, nearest, if_neg (by linarith), if_pos h, neg_neg]
  · simp
  · rw [nearest, nearest, if_pos (by linarith), if_neg (by linarith), neg_neg]

/-! ## Ends -/

theorem edge_pos : 0 < edge := pow_pos two_pos 1024

/-- A fraction held between the two ends. -/
def held (v : Rat) : Rat := max (-edge) (min v edge)

theorem held_mono {v w : Rat} (h : v ≤ w) : held v ≤ held w :=
  max_le_max_left _ (min_le_min_right _ h)

theorem held_of_abs_le {v : Rat} (h : |v| ≤ edge) : held v = v := by
  rw [abs_le] at h
  rw [held, min_eq_left h.2, max_eq_right h.1]

theorem held_zero : held 0 = 0 := held_of_abs_le (abs_zero.trans_le edge_pos.le)

theorem held_nearest_zero : held (nearest 0) = 0 := by rw [nearest_zero, held_zero]

theorem abs_held_le (v : Rat) : |held v| ≤ edge :=
  abs_le.mpr ⟨le_max_left _ _, max_le (by linarith [edge_pos]) (min_le_right _ _)⟩

theorem abs_signed (sign : Sign) {u : Rat} (hu : 0 ≤ u) : |signed sign u| = u := by
  cases sign
  · exact (abs_neg u).trans (abs_of_nonneg hu)
  · exact abs_of_nonneg hu

theorem held_signed_of_le (sign : Sign) {u : Rat} (hu : 0 ≤ u) (h : u ≤ edge) :
    held (signed sign u) = signed sign u :=
  held_of_abs_le ((abs_signed sign hu).trans_le h)

theorem held_signed_of_ge (sign : Sign) {u : Rat} (h : edge ≤ u) :
    held (signed sign u) = signed sign edge := by
  have hedge := edge_pos
  cases sign with
  | positive =>
    change held u = edge
    rw [held, min_eq_right h, max_eq_right (by linarith)]
  | negative =>
    change held (-u) = -edge
    rw [held, min_eq_left (by linarith), max_eq_left (neg_le_neg h)]

theorem held_neg (v : Rat) : held (-v) = -held v := by
  have hedge := edge_pos
  rw [held, held, max_def, min_def, max_def, min_def]
  split_ifs <;> linarith

theorem held_held (v : Rat) : held (held v) = held v := by
  have hlow : -edge ≤ held v := le_max_left _ _
  have hhigh : held v ≤ edge := max_le (by linarith [edge_pos]) (min_le_right _ _)
  rw [held, min_eq_left hhigh, max_eq_right hlow]

/-! ## Packing -/

theorem unpackSign_packComponents (sign : Sign) (exponent : BitVec 11) (mantissa : BitVec 52) :
    unpackSign (packComponents Format.binary64 sign exponent mantissa) = sign.toBitVec := by
  rw [unpackSign_eq, packComponents, BitVec.extractLsb'_append_eq_of_le (by decide),
    BitVec.extractLsb'_append_eq_of_le (by decide)]
  cases sign <;> rfl

theorem ofBitVec_toBitVec (sign : Sign) : Sign.ofBitVec sign.toBitVec = sign := by
  cases sign <;> rfl

theorem one_append_pos (mantissa : BitVec 52) : 0 < (1#1 ++ mantissa).toNat := by
  rw [BitVec.toNat_append]
  exact lt_of_lt_of_le (by decide) Nat.left_le_or

/-- What is unpacked from the three parts of a float. -/
theorem unpack_packComponents (sign : Sign) (exponent : BitVec 11) (mantissa : BitVec 52) :
    UnpackedFloat.unpack Format.binary64 (packComponents Format.binary64 sign exponent mantissa)
      = if exponent = -1 then if mantissa = 0 then .infinity sign else .notANumber
        else if exponent = 0 then
          if h : mantissa = 0 then .zero sign
          else .finite sign mantissa.toNat (exponent.toNat - 1075 + 1)
            (by simpa [BitVec.toNat_pos, BitVec.pos_iff_ne_zero] using h)
        else .finite sign (1#1 ++ mantissa).toNat (exponent.toNat - 1075)
          (one_append_pos mantissa) := by
  have hsign : Sign.ofBitVec (unpackSign (packComponents Format.binary64 sign exponent mantissa))
      = sign := by rw [unpackSign_packComponents, ofBitVec_toBitVec]
  have hexponent : unpackExponent (packComponents Format.binary64 sign exponent mantissa)
      = exponent := unpackExponent_packComponents
  have hmantissa : unpackMantissa (packComponents Format.binary64 sign exponent mantissa)
      = mantissa := unpackMantissa_packComponents
  generalize packComponents Format.binary64 sign exponent mantissa = b at *
  subst hsign hexponent hmantissa
  rfl

/-- The parts that a finite float is packed into. -/
theorem pack_finite (sign : Sign) (m : Nat) (e : Int) (hpos : 0 < m) :
    UnpackedFloat.pack Format.binary64 (.finite sign m e hpos)
      = if 2 ^ 11 ≤ (e + 1023 + 52).toNat + 1 then packedInfinity Format.binary64 sign
        else if m.log2 + 1 = 53 then
          packComponents Format.binary64 sign (BitVec.ofNat 11 (e + 1023 + 52).toNat)
            (BitVec.ofNat 52 m)
        else packComponents Format.binary64 sign 0 (BitVec.ofNat 52 m) := rfl

theorem unpack_pack_zero (sign : Sign) : (Float.Model.pack (.zero sign)).unpack = .zero sign := by
  cases sign <;> rfl

theorem unpack_pack_infinity (sign : Sign) :
    (Float.Model.pack (.infinity sign)).unpack = .infinity sign := by
  cases sign <;> rfl

section Finite

variable {sign : Sign} {m : Nat} {e : Int} {hpos : 0 < m}

/-- An exponent past the last one is packed as an infinity. -/
theorem unpack_pack_of_ge (h : 972 ≤ e) :
    (Float.Model.pack (.finite sign m e hpos)).unpack = .infinity sign := by
  rw [← unpack_pack_infinity]
  change UnpackedFloat.unpack _ (UnpackedFloat.pack _ _) = UnpackedFloat.unpack _ _
  rw [pack_finite, if_pos (by omega)]
  rfl

theorem toNat_ofNat_of_lt {width n : Nat} (h : n < 2 ^ width) :
    (BitVec.ofNat width n).toNat = n := by
  rw [BitVec.toNat_ofNat, Nat.mod_eq_of_lt h]

/-- The other floats are packed without loss. -/
theorem unpack_pack_of_le (hfits : Fits m e) (h : e ≤ 971) :
    (Float.Model.pack (.finite sign m e hpos)).unpack = .finite sign m e hpos := by
  have hleast := hfits.exponent_ge
  change UnpackedFloat.unpack _ (UnpackedFloat.pack _ _) = _
  rw [pack_finite, if_neg (by omega)]
  by_cases hfirst : 2 ^ 52 ≤ m
  · have hlog : m.log2 + 1 = 53 :=
      congrArg (· + 1) ((Nat.log2_eq_iff hpos.ne').mpr ⟨hfirst, hfits.mantissa_lt⟩)
    have hexponent : (BitVec.ofNat 11 (e + 1023 + 52).toNat).toNat = (e + 1023 + 52).toNat :=
      toNat_ofNat_of_lt (by omega)
    have hmantissa : (1#1 ++ BitVec.ofNat 52 m).toNat = m := by
      rw [BitVec.toNat_append, ← Nat.shiftLeft_add_eq_or_of_lt (BitVec.isLt _), BitVec.toNat_ofNat]
      have hlt := hfits.mantissa_lt
      change 2 ^ 52 + m % 2 ^ 52 = m
      omega
    rw [if_pos hlog, unpack_packComponents, if_neg, if_neg]
    · congr 1
      rw [hexponent]
      omega
    · intro hzero
      rw [hzero] at hexponent
      change 0 = _ at hexponent
      omega
    · intro hfull
      rw [hfull] at hexponent
      change 2047 = _ at hexponent
      omega
  · have hlt : m < 2 ^ 52 := not_le.mp hfirst
    have hlog : ¬ m.log2 + 1 = 53 := by
      have := (Nat.log2_lt hpos.ne').mpr hlt
      omega
    have hmantissa := toNat_ofNat_of_lt hlt
    obtain rfl : e = -1074 := hleast.antisymm' (not_lt.mp (mt hfits.mantissa_ge hfirst))
    rw [if_neg hlog, unpack_packComponents, if_neg (by decide), if_pos rfl, dif_neg]
    · congr 1
    · intro hzero
      rw [hzero] at hmantissa
      exact hpos.ne hmantissa

theorem magnitude_nonneg (m : Nat) (e : Int) : 0 ≤ magnitude m e :=
  mul_nonneg (Nat.cast_nonneg m) (unit_pos e).le

theorem magnitude_lt_edge (hfits : Fits m e) (h : e ≤ 971) : magnitude m e < edge := by
  have hm : (m : Rat) < 2 ^ 53 := by exact_mod_cast hfits.mantissa_lt
  calc (m : Rat) * 2 ^ e < 2 ^ 53 * 2 ^ (971 : Int) :=
        mul_lt_mul hm (zpow_le_zpow_right₀ one_le_two h) (unit_pos e) (by positivity)
    _ = edge := by rw [edge, ← zpow_natCast, ← zpow_natCast, ← zpow_add₀ two_ne_zero]; rfl

theorem edge_le_magnitude (hfits : Fits m e) (h : 972 ≤ e) : edge ≤ magnitude m e := by
  have hm : (2 : Rat) ^ 52 ≤ m := by exact_mod_cast hfits.mantissa_ge (by omega)
  calc edge = 2 ^ 52 * 2 ^ (972 : Int) := by
        rw [edge, ← zpow_natCast, ← zpow_natCast, ← zpow_add₀ two_ne_zero]; rfl
    _ ≤ m * 2 ^ e :=
        mul_le_mul hm (zpow_le_zpow_right₀ one_le_two h) (unit_pos _).le (Nat.cast_nonneg m)

end Finite

/-- **A float that is packed and unpacked is held between the ends.** -/
theorem Denotes.unpack_pack {f : UnpackedFloat} {v : Rat} (h : Denotes f v) :
    Denotes (Float.Model.pack f).unpack (held v) := by
  cases h with
  | zero sign =>
    rw [unpack_pack_zero, held_zero]
    exact .zero sign
  | infinity sign =>
    rw [unpack_pack_infinity, held_signed_of_ge sign le_rfl]
    exact .infinity sign
  | @finite sign m e hpos hfits =>
    obtain h | h := le_or_gt e 971
    · rw [unpack_pack_of_le hfits h,
        held_signed_of_le sign (magnitude_pos hpos e).le (magnitude_lt_edge hfits h).le]
      exact .finite sign hpos hfits
    · rw [unpack_pack_of_ge h, held_signed_of_ge sign (edge_le_magnitude hfits h)]
      exact .infinity sign

/-! ## Places of floats -/

/-- A float stands at a fraction. -/
def IsAt (x : Float) (v : Rat) : Prop := Denotes x.toModel.unpack v

variable {x y : Float} {v w : Rat}

theorem isAt_exact (h : isFinite x = true) : IsAt x (exact x) := by
  rw [IsAt]
  obtain ⟨sign, hunpack, hexact⟩ | ⟨sign, m, e, hpos, hfits, hunpack, hexact⟩ :=
    cases_of_isFinite h
  · rw [hunpack, hexact]
    exact .zero sign
  · rw [hunpack, hexact]
    exact .finite sign hpos hfits

theorem exponent_le_of_ofFloat {negative : Bool} {m : Nat} {e : Int}
    (h : ofFloat x = .finite negative m e) : e ≤ 971 := by
  rw [ofFloat, Binary.ofBits] at h
  generalize x.toBits.toNat = bits at h
  have hfield : bits / Nat.pow 2 52 % Nat.pow 2 11 < 2 ^ 11 := Nat.mod_lt _ (by decide)
  split at h
  · cases h
    decide
  · split at h
    · split at h <;> cases h
    · cases h
      omega

/-- The sign of a float does not count for its distance from zero. -/
theorem abs_exact_eq {negative : Bool} {m : Nat} {e : Int}
    (hvalue : ofFloat x = .finite negative m e) : |exact x| = magnitude m e := by
  rw [exact, hvalue]
  cases negative with
  | true => exact (abs_neg _).trans (abs_of_nonneg (magnitude_nonneg m e))
  | false => exact abs_of_nonneg (magnitude_nonneg m e)

/-- A finite float stands between the ends. -/
theorem abs_exact_lt (h : isFinite x = true) : |exact x| < edge := by
  obtain ⟨negative, m, e, hvalue⟩ := exists_ofFloat_eq h
  rw [abs_exact_eq hvalue]
  exact magnitude_lt_edge (fits_of_ofFloat hvalue) (exponent_le_of_ofFloat hvalue)

/-- A float stands at one fraction only. -/
theorem IsAt.eq (h : IsAt x v) (h' : IsAt x w) : v = w := by
  rw [IsAt] at h h'
  generalize x.toModel.unpack = f at h h'
  cases h <;> cases h' <;> rfl

/-- A float that is no infinity stands at its exact value. -/
theorem IsAt.eq_exact (hx : isFinite x = true) (h : IsAt x v) : v = exact x :=
  h.eq (isAt_exact hx)

theorem signed_inj {s₁ s₂ : Sign} {u₁ u₂ : Rat} (h₁ : 0 < u₁) (h₂ : 0 < u₂)
    (h : signed s₁ u₁ = signed s₂ u₂) : s₁ = s₂ ∧ u₁ = u₂ := by
  cases s₁ <;> cases s₂
  · exact ⟨rfl, neg_inj.mp h⟩
  · change -u₁ = u₂ at h
    linarith
  · change u₁ = -u₂ at h
    linarith
  · exact ⟨rfl, h⟩

theorem magnitude_inj {m₁ m₂ : Nat} {e₁ e₂ : Int} (h₁ : Fits m₁ e₁) (h₂ : Fits m₂ e₂)
    (h : magnitude m₁ e₁ = magnitude m₂ e₂) : m₁ = m₂ ∧ e₁ = e₂ := by
  obtain hlt | rfl | hgt := lt_trichotomy e₁ e₂
  · exact absurd h (magnitude_lt h₁ h₂ hlt).ne
  · rw [magnitude, magnitude, mul_left_inj' (unit_pos e₁).ne'] at h
    exact ⟨Nat.cast_injective h, rfl⟩
  · exact absurd h (magnitude_lt h₂ h₁ hgt).ne'

/-- **A finite float is known by its value**, the two zeros aside. -/
theorem eq_of_exact_eq (hx : isFinite x = true) (hy : isFinite y = true) (h : exact x = exact y)
    (hne : exact x ≠ 0) : x = y := by
  obtain ⟨s₁, h₁, hexact₁⟩ | ⟨s₁, m₁, e₁, hpos₁, hfits₁, h₁, hexact₁⟩ := cases_of_isFinite hx
  · exact absurd hexact₁ hne
  obtain ⟨s₂, h₂, hexact₂⟩ | ⟨s₂, m₂, e₂, hpos₂, hfits₂, h₂, hexact₂⟩ := cases_of_isFinite hy
  · exact absurd (h.trans hexact₂) hne
  have hsigned : signed s₁ (magnitude m₁ e₁) = signed s₂ (magnitude m₂ e₂) :=
    hexact₁.symm.trans (h.trans hexact₂)
  obtain ⟨rfl, hmagnitude⟩ := signed_inj (magnitude_pos hpos₁ e₁) (magnitude_pos hpos₂ e₂) hsigned
  obtain ⟨rfl, rfl⟩ := magnitude_inj hfits₁ hfits₂ hmagnitude
  exact eq_of_unpack_eq hx (h₁.trans h₂.symm)

theorem IsAt.of_denotes {f : UnpackedFloat} (hx : x.toModel = Float.Model.pack f)
    (h : Denotes f v) : IsAt x (held v) := by
  rw [IsAt, hx]
  exact h.unpack_pack

/-- A float is finite, or an infinity that stands at an end. -/
theorem IsAt.finite_or (h : IsAt x v) : isFinite x = true
    ∨ ∃ sign, x.toModel.unpack = .infinity sign ∧ v = signed sign edge := by
  rw [isFinite, ofFloat_eq]
  rw [IsAt] at h
  generalize x.toModel.unpack = f at h
  cases h with
  | zero => exact .inl rfl
  | finite => exact .inl rfl
  | infinity sign => exact .inr ⟨sign, rfl, rfl⟩

theorem IsAt.isFinite_of_lt (h : IsAt x v) (hlt : |v| < edge) : isFinite x = true := by
  obtain hfinite | ⟨sign, -, rfl⟩ := h.finite_or
  · exact hfinite
  · exact absurd (abs_signed sign edge_pos.le) hlt.ne

/-! ## Whole numbers -/

/-- The ends are past all whole numbers of 64 bits. -/
theorem two_pow_lt_edge : (2 : Rat) ^ 64 < edge := pow_lt_pow_right₀ one_lt_two (by decide)

/-- The whole number of a float by any way of rounding that goes no further than one. -/
theorem IsAt.toInt64_eq {rounding : Bool → Nat → Int → Int} {whole : Rat → Int}
    (hwhole : ∀ negative m e, rounding negative m e
      = whole (if negative then -magnitude m e else magnitude m e))
    (hnear : ∀ v : Rat, v - 1 ≤ whole v ∧ whole v ≤ v + 1) (h : IsAt x v) :
    (ofFloat x).toInt64 rounding = Int64.ofIntClamp (whole v) := by
  have hends := two_pow_lt_edge
  rw [ofFloat_eq]
  rw [IsAt] at h
  generalize x.toModel.unpack = f at h
  cases h with
  | zero sign =>
    change (Binary.finite (isNegative sign) 0 (-1074)).toInt64 rounding = _
    rw [Binary.toInt64, hwhole, magnitude, Nat.cast_zero, zero_mul, neg_zero, ite_self]
  | finite sign hpos hfits =>
    rw [ofUnpacked_finite, Binary.toInt64, hwhole]
    rfl
  | infinity sign =>
    cases sign with
    | positive =>
      have hpast : 2 ^ 63 < whole edge := by
        have : ((2 ^ 63 : Int) : Rat) < whole edge := by
          push_cast
          linarith [(hnear edge).1]
        exact_mod_cast this
      change Int64.maxValue = Int64.ofIntClamp (whole edge)
      rw [Int64.ofIntClamp, dif_pos (le_trans (by decide) hpast.le),
        dif_neg (lt_of_lt_of_le (by decide) hpast.le).not_ge]
    | negative =>
      have hpast : whole (-edge) < -2 ^ 63 := by
        have : (whole (-edge) : Rat) < ((-2 ^ 63 : Int) : Rat) := by
          push_cast
          linarith [(hnear (-edge)).2]
        exact_mod_cast this
      change Int64.minValue = Int64.ofIntClamp (whole (-edge))
      rw [Int64.ofIntClamp, dif_neg (hpast.trans_le (by decide)).not_ge]

theorem IsAt.floor_eq (h : IsAt x v) : floor x = Int64.ofIntClamp ⌊v⌋ := by
  refine h.toInt64_eq Binary.floor_eq_floor fun v => ⟨(Int.sub_one_lt_floor v).le, ?_⟩
  exact (Int.floor_le v).trans (le_add_of_nonneg_right zero_le_one)

theorem round_eq_roundFraction (negative : Bool) (m : Nat) (e : Int) : Binary.round negative m e
    = roundFraction (if negative then -magnitude m e else magnitude m e) := by
  have hmagnitude : roundFraction (magnitude m e)
      = ((2 * (ratio m e).1 + (ratio m e).2) / (2 * (ratio m e).2) : Nat) := by
    have hbelow : ((ratio m e).2 : Rat) ≠ 0 := Nat.cast_ne_zero.mpr (Nat.pow_pos two_pos).ne'
    have hhalf : magnitude m e + 1 / 2
        = ((2 * (ratio m e).1 + (ratio m e).2 : Nat) : Rat) / (2 * (ratio m e).2 : Nat) := by
      rw [magnitude_eq_div]
      push_cast
      field_simp
    rw [roundFraction_of_nonneg (magnitude_nonneg m e), hhalf,
      Rat.floor_natCast_div_natCast]
    rfl
  cases negative with
  | true =>
    rw [if_pos rfl, roundFraction_neg, hmagnitude]
    rfl
  | false =>
    rw [if_neg (by decide), hmagnitude]
    rfl

theorem IsAt.round_eq (h : IsAt x v) : round x = Int64.ofIntClamp (roundFraction v) := by
  refine h.toInt64_eq round_eq_roundFraction fun v => ?_
  obtain ⟨hdown, hup⟩ := abs_le.mp (abs_roundFraction_sub_le v)
  constructor <;> linarith

end ZGrid.Float64
