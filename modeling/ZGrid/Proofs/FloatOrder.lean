import Mathlib.Algebra.Order.Field.Power
import Mathlib.Data.Rat.Floor
import Mathlib.Order.Compare
import Mathlib.Tactic.Positivity
import Mathlib.Tactic.Ring
import ZGrid.Number.Binary

/-!
# Proofs/FloatOrder — floats are ordered as their values are

A finite float is `± mantissa · 2 ^ exponent`.  Two of one sign are compared by their exponents and
then by their mantissas, which is the order of the values because every mantissa has 53 digits, but
for those at the least exponent:

```
   exponent      -1074              -1073            …
   mantissa      0 … 2 ^ 53 - 1     2 ^ 52 … 2 ^ 53 - 1
```

So comparing floats is comparing their exact values (`compare_exact`), and rounding down is rounding
down the exact value (`floor_eq`).
-/

namespace ZGrid

open Float.Model Float.Model.UnpackedFloat

namespace Binary

/-! ## The parts of a float -/

theorem toNat_unpackMantissa (b : BitVec 64) :
    (@unpackMantissa Format.binary64 b).toNat = b.toNat % 2 ^ 52 := by
  simp [unpackMantissa]

theorem toNat_unpackExponent (b : BitVec 64) :
    (@unpackExponent Format.binary64 b).toNat = b.toNat / 2 ^ 52 % 2 ^ 11 := by
  simp [unpackExponent, Nat.shiftRight_eq_div_pow]

theorem unpackSign_eq (b : BitVec 64) : @unpackSign Format.binary64 b = b.extractLsb' 63 1 := rfl

theorem toNat_unpackSign (b : BitVec 64) :
    (@unpackSign Format.binary64 b).toNat = b.toNat / 2 ^ 63 % 2 := by
  rw [unpackSign_eq, BitVec.extractLsb'_toNat, Nat.shiftRight_eq_div_pow]

/-- A mantissa with the first digit, which is not written. -/
theorem toNat_one_append_unpackMantissa (b : BitVec 64) :
    (1#1 ++ @unpackMantissa Format.binary64 b).toNat = 2 ^ 52 + b.toNat % 2 ^ 52 := by
  rw [BitVec.toNat_append, ← Nat.shiftLeft_add_eq_or_of_lt (BitVec.isLt _), toNat_unpackMantissa]
  rfl

theorem unpackMantissa_eq_zero_iff (b : BitVec 64) :
    @unpackMantissa Format.binary64 b = 0#52 ↔ b.toNat % 2 ^ 52 = 0 := by
  rw [← BitVec.toNat_inj, toNat_unpackMantissa]
  rfl

theorem unpackExponent_eq_iff (b : BitVec 64) (field : BitVec 11) :
    @unpackExponent Format.binary64 b = field ↔ b.toNat / 2 ^ 52 % 2 ^ 11 = field.toNat := by
  rw [← BitVec.toNat_inj, toNat_unpackExponent]

/-- A minus sign. -/
def isNegative : Sign → Bool
  | .negative => true
  | .positive => false

theorem isNegative_unpackSign (b : BitVec 64) :
    isNegative (Sign.ofBitVec (@unpackSign Format.binary64 b)) = (b.toNat / 2 ^ 63 % 2 == 1) := by
  rw [← toNat_unpackSign]
  generalize @unpackSign Format.binary64 b = sign
  revert sign
  decide

/-- The value of a float that is taken apart. -/
def ofUnpacked : UnpackedFloat → Binary
  | .notANumber => .nan
  | .infinity sign => .infinite (isNegative sign)
  | .zero sign => .finite (isNegative sign) 0 (-1074)
  | .finite sign mantissa exponent _ => .finite (isNegative sign) mantissa exponent

theorem ofUnpacked_finite (sign : Sign) (mantissa : Nat) (exponent : Int) (h : 0 < mantissa) :
    ofUnpacked (.finite sign mantissa exponent h)
      = .finite (isNegative sign) mantissa exponent := rfl

/-- **The value of a float is that of its parts.** -/
theorem ofFloat_eq (x : Float) : ofFloat x = ofUnpacked x.toModel.unpack := by
  have hbits : x.toBits.toNat = x.toModel.toBits.toBitVec.toNat := rfl
  rw [ofFloat, hbits, Float.Model.unpack, ofBits]
  delta UnpackedFloat.unpack
  generalize x.toModel.toBits.toBitVec = b
  have hsign := isNegative_unpackSign b
  have hfull := unpackExponent_eq_iff b (-1#11)
  have hnone := unpackExponent_eq_iff b 0#11
  have hzero := unpackMantissa_eq_zero_iff b
  dsimp only
  by_cases h2047 : b.toNat / Nat.pow 2 52 % Nat.pow 2 11 = 2047
  · rw [if_pos (hfull.mpr h2047), h2047, if_neg (by decide), if_pos rfl]
    by_cases hfraction : b.toNat % Nat.pow 2 52 = 0
    · rw [if_pos hfraction, if_pos (hzero.mpr hfraction)]
      exact congrArg Binary.infinite hsign.symm
    · rw [if_neg hfraction, if_neg (mt hzero.mp hfraction)]
      rfl
  · rw [if_neg (mt hfull.mp h2047)]
    by_cases h0 : b.toNat / Nat.pow 2 52 % Nat.pow 2 11 = 0
    · rw [if_pos h0, if_pos (hnone.mpr h0)]
      by_cases hfraction : b.toNat % Nat.pow 2 52 = 0
      · rw [dif_pos (hzero.mpr hfraction), hfraction]
        exact congrArg (Binary.finite · 0 (-1074)) hsign.symm
      · rw [dif_neg (mt hzero.mp hfraction), ofUnpacked_finite, hsign, hnone.mpr h0,
          toNat_unpackMantissa]
        rfl
    · rw [if_neg h0, if_neg (mt hnone.mp h0), if_neg h2047, ofUnpacked_finite, hsign,
        toNat_unpackExponent, toNat_one_append_unpackMantissa]
      rfl

/-- The mantissas and the exponents of floats. -/
structure Fits (mantissa : Nat) (exponent : Int) : Prop where
  /-- A mantissa has at most 53 digits. -/
  mantissa_lt : mantissa < 2 ^ 53
  /-- The least exponent. -/
  exponent_ge : -1074 ≤ exponent
  /-- Above the least exponent a mantissa has 53 digits. -/
  mantissa_ge : -1074 < exponent → 2 ^ 52 ≤ mantissa

theorem fits_of_ofFloat {x : Float} {negative : Bool} {mantissa : Nat} {exponent : Int}
    (h : ofFloat x = .finite negative mantissa exponent) : Fits mantissa exponent := by
  rw [ofFloat, ofBits] at h
  generalize x.toBits.toNat = bits at h
  have hfraction : bits % Nat.pow 2 52 < 2 ^ 52 := Nat.mod_lt _ (by decide)
  have hwidth : (Nat.pow 2 52 : Nat) = 2 ^ 52 := rfl
  split at h
  · cases h
    exact ⟨by omega, by decide, by omega⟩
  · split at h
    · split at h <;> cases h
    · cases h
      exact ⟨by omega, by omega, by omega⟩

/-- The 64 bits of a finite float, put together again. -/
theorem toNat_toBits_eq {x : Float} {negative : Bool} {mantissa : Nat} {exponent : Int}
    (h : ofFloat x = .finite negative mantissa exponent) : x.toBits.toNat
      = (if negative then 2 ^ 63 else 0)
        + (if mantissa < 2 ^ 52 then 0 else (exponent + 1075).toNat) * 2 ^ 52
        + mantissa % 2 ^ 52 := by
  have hbits := x.toBits.toNat_lt
  rw [ofFloat, ofBits] at h
  generalize x.toBits.toNat = bits at h hbits
  have hwidth : (Nat.pow 2 52 : Nat) = 2 ^ 52 := rfl
  have hfields : (Nat.pow 2 11 : Nat) = 2 ^ 11 := rfl
  have hhalf : (Nat.pow 2 63 : Nat) = 2 ^ 63 := rfl
  rw [hwidth, hfields, hhalf] at h
  have hsign : (if (bits / 2 ^ 63 % 2 == 1) = true then 2 ^ 63 else 0)
      = bits / 2 ^ 63 * 2 ^ 63 := by
    split_ifs with hone
    · rw [beq_iff_eq] at hone
      omega
    · rw [beq_iff_eq] at hone
      omega
  split_ifs at h with hzero
  · cases h
    rw [hsign, if_pos (Nat.mod_lt _ (by decide))]
    omega
  · cases h
    rw [hsign, if_neg (by omega)]
    omega

/-- A finite float is known by its parts. -/
theorem eq_of_ofFloat_eq {x y : Float} {negative : Bool} {mantissa : Nat} {exponent : Int}
    (hx : ofFloat x = .finite negative mantissa exponent)
    (hy : ofFloat y = .finite negative mantissa exponent) : x = y := by
  have hbits : x.toBits = y.toBits :=
    UInt64.toNat_inj.mp ((toNat_toBits_eq hx).trans (toNat_toBits_eq hy).symm)
  obtain ⟨⟨bits, hvalid⟩⟩ := x
  obtain ⟨⟨bits', hvalid'⟩⟩ := y
  cases hbits
  rfl
/-! ## Magnitudes -/

/-- The number `mantissa · 2 ^ exponent`. -/
def magnitude (mantissa : Nat) (exponent : Int) : Rat := mantissa * 2 ^ exponent

theorem magnitude_pos {mantissa : Nat} (h : 0 < mantissa) (exponent : Int) :
    0 < magnitude mantissa exponent :=
  mul_pos (Nat.cast_pos.mpr h) (zpow_pos two_pos exponent)

theorem magnitude_eq_div (mantissa : Nat) (exponent : Int) : magnitude mantissa exponent
    = ((ratio mantissa exponent).1 : Rat) / ((ratio mantissa exponent).2 : Nat) := by
  have hpow : ∀ n : Nat, ((Nat.pow 2 n : Nat) : Rat) = 2 ^ n := fun n => Nat.cast_pow 2 n
  rw [magnitude, ratio, Nat.cast_mul, hpow, hpow, mul_div_assoc]
  congr 1
  obtain ⟨n, rfl | rfl⟩ := exponent.eq_nat_or_neg
  · simp
  · simp

/-- Rounding down a magnitude with a sign. -/
theorem floor_eq_floor (negative : Bool) (mantissa : Nat) (exponent : Int) :
    floor negative mantissa exponent
      = ⌊if negative then -magnitude mantissa exponent else magnitude mantissa exponent⌋ := by
  rw [floor, magnitude_eq_div]
  dsimp only
  rw [Int.fdiv_eq_ediv_of_nonneg _ (Int.natCast_nonneg _)]
  cases negative with
  | true =>
    rw [if_pos rfl, if_pos rfl, ← Rat.floor_intCast_div_natCast, neg_div', Int.cast_neg,
      Int.cast_natCast]
  | false => rw [if_neg (by decide), if_neg (by decide), ← Rat.floor_intCast_div_natCast,
      Int.cast_natCast]

/-- A magnitude with the less exponent is the less. -/
theorem magnitude_lt {m₁ m₂ : Nat} {e₁ e₂ : Int} (h₁ : Fits m₁ e₁) (h₂ : Fits m₂ e₂)
    (h : e₁ < e₂) : magnitude m₁ e₁ < magnitude m₂ e₂ := by
  have hlow : (m₁ : Rat) < 2 ^ 53 := by exact_mod_cast h₁.mantissa_lt
  have hhigh : (2 : Rat) ^ 52 ≤ m₂ := by
    exact_mod_cast h₂.mantissa_ge (lt_of_le_of_lt h₁.exponent_ge h)
  calc (m₁ : Rat) * 2 ^ e₁ < 2 ^ 53 * 2 ^ e₁ := mul_lt_mul_of_pos_right hlow (zpow_pos two_pos e₁)
    _ = 2 ^ 52 * 2 ^ (e₁ + 1) := by rw [zpow_add_one₀ two_ne_zero]; ring
    _ ≤ 2 ^ 52 * 2 ^ e₂ :=
      mul_le_mul_of_nonneg_left (zpow_le_zpow_right₀ one_le_two h) (by positivity)
    _ ≤ m₂ * 2 ^ e₂ := mul_le_mul_of_nonneg_right hhigh (zpow_nonneg two_pos.le e₂)

/-- **Magnitudes are ordered by their exponents and then by their mantissas.** -/
theorem compares_magnitude {m₁ m₂ : Nat} {e₁ e₂ : Int} (h₁ : Fits m₁ e₁) (h₂ : Fits m₂ e₂) :
    ((compare e₁ e₂).then (compare m₁ m₂)).Compares (magnitude m₁ e₁) (magnitude m₂ e₂) := by
  obtain hlt | rfl | hgt := lt_trichotomy e₁ e₂
  · rw [compare_lt_iff_lt.mpr hlt]
    exact magnitude_lt h₁ h₂ hlt
  · rw [compare_eq_iff_eq.mpr rfl]
    have hpos : (0 : Rat) < 2 ^ e₁ := zpow_pos two_pos e₁
    obtain hlt | rfl | hgt := lt_trichotomy m₁ m₂
    · rw [compare_lt_iff_lt.mpr hlt]
      exact mul_lt_mul_of_pos_right (Nat.cast_lt.mpr hlt) hpos
    · rw [compare_eq_iff_eq.mpr rfl]
      rfl
    · rw [compare_gt_iff_gt.mpr hgt]
      exact mul_lt_mul_of_pos_right (Nat.cast_lt.mpr hgt) hpos
  · rw [compare_gt_iff_gt.mpr hgt]
    exact magnitude_lt h₂ h₁ hgt

end Binary

namespace Float64

open Binary

/-- The exact value of a finite float. -/
def exact (x : Float) : Rat :=
  match ofFloat x with
  | .finite negative mantissa exponent =>
    if negative then -magnitude mantissa exponent else magnitude mantissa exponent
  | _ => 0

theorem isFinite_zero : isFinite 0 = true := by decide +kernel

theorem exact_zero : exact 0 = 0 := by decide +kernel

variable {x y : Float}

theorem exists_ofFloat_eq (h : isFinite x = true) :
    ∃ negative mantissa exponent, ofFloat x = .finite negative mantissa exponent := by
  rw [isFinite] at h
  cases hvalue : ofFloat x with
  | finite negative mantissa exponent => exact ⟨_, _, _, rfl⟩
  | _ =>
    rw [hvalue] at h
    cases h

/-- A finite float is known by what it is taken apart into. -/
theorem eq_of_unpack_eq (hx : isFinite x = true) (h : x.toModel.unpack = y.toModel.unpack) :
    x = y := by
  obtain ⟨negative, mantissa, exponent, hvalue⟩ := exists_ofFloat_eq hx
  refine eq_of_ofFloat_eq hvalue ?_
  rw [ofFloat_eq, ← h, ← ofFloat_eq, hvalue]

/-- **A finite float is zero, or a magnitude with a sign.** -/
theorem cases_of_isFinite (h : isFinite x = true) :
    (∃ sign, x.toModel.unpack = .zero sign ∧ exact x = 0)
      ∨ ∃ sign mantissa exponent, ∃ hpos : 0 < mantissa, Fits mantissa exponent
        ∧ x.toModel.unpack = .finite sign mantissa exponent hpos
        ∧ exact x = if isNegative sign then -magnitude mantissa exponent
            else magnitude mantissa exponent := by
  have hvalue := ofFloat_eq x
  rw [isFinite, hvalue] at h
  rw [exact]
  cases hunpack : x.toModel.unpack with
  | notANumber =>
    rw [hunpack] at h
    cases h
  | infinity sign =>
    rw [hunpack] at h
    cases h
  | zero sign =>
    rw [hvalue, hunpack]
    refine .inl ⟨sign, rfl, ?_⟩
    change (if isNegative sign = true then -magnitude 0 (-1074) else magnitude 0 (-1074)) = 0
    rw [magnitude, Nat.cast_zero, zero_mul, neg_zero, ite_self]
  | finite sign mantissa exponent hpos =>
    rw [hunpack] at hvalue
    rw [hvalue]
    exact .inr ⟨sign, mantissa, exponent, hpos, fits_of_ofFloat hvalue, rfl, rfl⟩

theorem compares_neg {order : Ordering} {a b : Rat} (h : order.Compares a b) :
    order.Compares (-b) (-a) := by
  cases order with
  | lt => exact neg_lt_neg h
  | eq => exact congrArg Neg.neg (Eq.symm h)
  | gt => exact neg_lt_neg h

/-- **Comparing two finite floats is comparing their exact values.** -/
theorem compare_exact (hx : isFinite x = true) (hy : isFinite y = true) :
    ∃ order, x.toModel.unpack.compare y.toModel.unpack = some order
      ∧ order.Compares (exact x) (exact y) := by
  obtain ⟨s₁, h₁, hzero₁⟩ | ⟨s₁, m₁, e₁, hpos₁, hfits₁, h₁, hexact₁⟩ := cases_of_isFinite hx <;>
    obtain ⟨s₂, h₂, hzero₂⟩ | ⟨s₂, m₂, e₂, hpos₂, hfits₂, h₂, hexact₂⟩ := cases_of_isFinite hy
  · rw [h₁, h₂, hzero₁, hzero₂]
    exact ⟨.eq, rfl, rfl⟩
  · have hmagnitude := magnitude_pos hpos₂ e₂
    rw [h₁, h₂, hzero₁, hexact₂]
    cases s₂ with
    | negative => exact ⟨.gt, rfl, neg_neg_of_pos hmagnitude⟩
    | positive => exact ⟨.lt, rfl, hmagnitude⟩
  · have hmagnitude := magnitude_pos hpos₁ e₁
    rw [h₁, h₂, hzero₂, hexact₁]
    cases s₁ with
    | negative => exact ⟨.lt, rfl, neg_neg_of_pos hmagnitude⟩
    | positive => exact ⟨.gt, rfl, hmagnitude⟩
  · have hcompares := compares_magnitude hfits₁ hfits₂
    have hmagnitude₁ := magnitude_pos hpos₁ e₁
    have hmagnitude₂ := magnitude_pos hpos₂ e₂
    rw [h₁, h₂, hexact₁, hexact₂]
    cases s₁ <;> cases s₂
    · exact ⟨_, rfl, Ordering.compares_swap.mpr (compares_neg hcompares)⟩
    · exact ⟨.lt, rfl, (neg_neg_of_pos hmagnitude₁).trans hmagnitude₂⟩
    · exact ⟨.gt, rfl, (neg_neg_of_pos hmagnitude₂).trans hmagnitude₁⟩
    · exact ⟨_, rfl, hcompares⟩

theorem lt_iff_exact_lt (hx : isFinite x = true) (hy : isFinite y = true) :
    x < y ↔ exact x < exact y := by
  obtain ⟨order, hcompare, hcompares⟩ := compare_exact hx hy
  have hlt : x < y ↔ (x.toModel.unpack.compare y.toModel.unpack == some .lt) = true := by
    change decide _ = true ↔ _
    rw [decide_eq_true_iff]
    rfl
  rw [hlt, hcompare, ← hcompares.eq_lt]
  cases order <;> decide

theorem le_iff_exact_le (hx : isFinite x = true) (hy : isFinite y = true) :
    x ≤ y ↔ exact x ≤ exact y := by
  obtain ⟨order, hcompare, hcompares⟩ := compare_exact hx hy
  have hle : x ≤ y ↔ (x.toModel.unpack.compare y.toModel.unpack).any (·.isLE) = true := by
    change decide _ = true ↔ _
    rw [decide_eq_true_iff]
    rfl
  rw [hle, hcompare, ← hcompares.ne_gt]
  cases order <;> decide

theorem beq_iff_exact_eq (hx : isFinite x = true) (hy : isFinite y = true) :
    (x == y) = true ↔ exact x = exact y := by
  obtain ⟨order, hcompare, hcompares⟩ := compare_exact hx hy
  change (x.toModel.unpack.compare y.toModel.unpack == some .eq) = true ↔ _
  rw [hcompare, ← hcompares.eq_eq]
  cases order <;> decide

/-- **Rounding down a finite float is rounding down its exact value.** -/
theorem floor_eq (hx : isFinite x = true) : floor x = Int64.ofIntClamp ⌊exact x⌋ := by
  rw [isFinite] at hx
  rw [floor, exact]
  cases hvalue : ofFloat x with
  | nan =>
    rw [hvalue] at hx
    cases hx
  | infinite negative =>
    rw [hvalue] at hx
    cases hx
  | finite negative mantissa exponent =>
    rw [Binary.toInt64, floor_eq_floor]

/-! ## Floats past a finite one -/

theorem unpack_of_not_finite (h : isFinite x = false) :
    x.toModel.unpack = .notANumber ∨ ∃ sign, x.toModel.unpack = .infinity sign := by
  rw [isFinite, ofFloat_eq] at h
  cases hunpack : x.toModel.unpack with
  | notANumber => exact .inl rfl
  | infinity sign => exact .inr ⟨sign, rfl⟩
  | zero | finite =>
    rw [hunpack] at h
    cases h

theorem not_finite_of_infinity {sign : Sign} (h : x.toModel.unpack = .infinity sign) :
    isFinite x = false := by
  rw [isFinite, ofFloat_eq, h]
  rfl

/-- Which floats that are not finite lie above a finite one does not depend on that one. -/
theorem lt_iff_of_not_finite (hx : isFinite x = true) (hy : isFinite y = false) :
    x < y ↔ y.toModel.unpack = .infinity .positive := by
  change decide (x.toModel.unpack.lt y.toModel.unpack = true) = true ↔ _
  obtain ⟨sign, hx, -⟩ | ⟨sign, _, _, _, -, hx, -⟩ := cases_of_isFinite hx <;>
    obtain hy | ⟨side, hy⟩ := unpack_of_not_finite hy <;>
    rw [hx, hy]
  · exact iff_of_false Bool.false_ne_true (by rintro ⟨⟩)
  · cases side with
    | negative => exact iff_of_false Bool.false_ne_true (by rintro ⟨⟩)
    | positive => exact iff_of_true rfl rfl
  · exact iff_of_false Bool.false_ne_true (by rintro ⟨⟩)
  · cases side with
    | negative => exact iff_of_false (by cases sign <;> exact Bool.false_ne_true) (by rintro ⟨⟩)
    | positive => exact iff_of_true (by cases sign <;> rfl) rfl

/-- Which of them lie below does not either. -/
theorem not_finite_lt_iff (hx : isFinite x = true) (hy : isFinite y = false) :
    y < x ↔ y.toModel.unpack = .infinity .negative := by
  change decide (y.toModel.unpack.lt x.toModel.unpack = true) = true ↔ _
  obtain ⟨sign, hx, -⟩ | ⟨sign, _, _, _, -, hx, -⟩ := cases_of_isFinite hx <;>
    obtain hy | ⟨side, hy⟩ := unpack_of_not_finite hy <;>
    rw [hx, hy]
  · exact iff_of_false Bool.false_ne_true (by rintro ⟨⟩)
  · cases side with
    | negative => exact iff_of_true rfl rfl
    | positive => exact iff_of_false Bool.false_ne_true (by rintro ⟨⟩)
  · exact iff_of_false Bool.false_ne_true (by rintro ⟨⟩)
  · cases side with
    | negative => exact iff_of_true (by cases sign <;> rfl) rfl
    | positive => exact iff_of_false (by cases sign <;> exact Bool.false_ne_true) (by rintro ⟨⟩)

/-- Every finite float is less than the positive infinity. -/
theorem lt_of_infinite (hx : isFinite x = true) (hy : ofFloat y = .infinite false) : x < y := by
  have hfinite : isFinite y = false := by rw [isFinite, hy]
  refine (lt_iff_of_not_finite hx hfinite).mpr ?_
  rw [ofFloat_eq] at hy
  obtain hnan | ⟨sign, hinfinite⟩ := unpack_of_not_finite hfinite
  · rw [hnan] at hy
    cases hy
  · rw [hinfinite] at hy ⊢
    cases sign with
    | positive => rfl
    | negative => cases hy

/-! ## Whole numbers within bounds -/

/-- A whole number held within 64 bits is none the greater. -/
theorem toNatClampNeg_ofIntClamp_le (z : Int) : (Int64.ofIntClamp z).toNatClampNeg ≤ z.toNat := by
  rw [Int64.toNatClampNeg]
  by_cases hleast : Int64.minValue.toInt ≤ z
  · by_cases hgreatest : z ≤ Int64.maxValue.toInt
    · rw [Int64.toInt_ofIntClamp hleast hgreatest]
    · rw [Int64.ofIntClamp, dif_pos hleast, dif_neg hgreatest]
      exact Int.toNat_le_toNat (not_le.mp hgreatest).le
  · rw [Int64.ofIntClamp, dif_neg hleast]
    exact Nat.zero_le _

/-- Rounding down a float that is not above a bound stays within the bound. -/
theorem toNatClampNeg_floor_le {bound : Float} (hbound : isFinite bound = true)
    (h : ¬ bound < x) : (floor x).toNatClampNeg ≤ ⌊exact bound⌋.toNat := by
  cases hvalue : ofFloat x with
  | nan =>
    rw [floor, hvalue]
    exact Nat.zero_le _
  | infinite negative =>
    cases negative with
    | true =>
      rw [floor, hvalue]
      exact Nat.zero_le _
    | false => exact absurd (lt_of_infinite hbound hvalue) h
  | finite negative mantissa exponent =>
    have hx : isFinite x = true := by rw [isFinite, hvalue]
    rw [lt_iff_exact_lt hbound hx, not_lt] at h
    rw [floor_eq hx]
    exact (toNatClampNeg_ofIntClamp_le _).trans (Int.toNat_le_toNat (Int.floor_le_floor h))

end Float64

end ZGrid
