import Mathlib.Data.Int.Log
import ZGrid.Proofs.FloatOrder

/-!
# Proofs/NearestFloat — rounding to a float

A fraction `u` is measured in units of `2 ^ place u`, so large that it is less than `2 ^ 53` of
them, and rounded to the nearest whole number of units:

```
   u          ┼────────┼────u───┼────────┼       units of 2 ^ place u
   rounded u           ●
```

Rounding keeps the order of fractions (`rounded_mono`): within one size of units it is that of
whole numbers, and a larger unit begins where the smaller one ends.  The machine's numbers are
rounded in this way (`roundWithAccuracy_cases`): digits that are shifted out leave two bits that
tell where the fraction stands between two whole numbers (`Stands`).
-/

namespace ZGrid.Float64

open Binary Float.Model Float.Model.UnpackedFloat

/-! ## Whole numbers -/

/-- The whole number nearest to a fraction that is not negative, a half going to the even one. -/
def nearestEven (x : Rat) : Nat :=
  let whole := ⌊x⌋₊
  if x < whole + 1 / 2 then whole else if x = whole + 1 / 2 then whole + whole % 2 else whole + 1

theorem floor_le_nearestEven (x : Rat) : ⌊x⌋₊ ≤ nearestEven x := by
  rw [nearestEven]
  split_ifs <;> omega

theorem nearestEven_le_floor_succ (x : Rat) : nearestEven x ≤ ⌊x⌋₊ + 1 := by
  rw [nearestEven]
  split_ifs <;> omega

theorem nearestEven_mono {x y : Rat} (h : x ≤ y) : nearestEven x ≤ nearestEven y := by
  obtain hfloor | hfloor := (Nat.floor_le_floor h).lt_or_eq
  · calc nearestEven x ≤ ⌊x⌋₊ + 1 := nearestEven_le_floor_succ x
      _ ≤ ⌊y⌋₊ := hfloor
      _ ≤ nearestEven y := floor_le_nearestEven y
  · rw [nearestEven, nearestEven, hfloor]
    split_ifs
    all_goals first
      | omega
      | grind

@[simp] theorem nearestEven_natCast (n : Nat) : nearestEven n = n := by
  rw [nearestEven, Nat.floor_natCast]
  exact if_pos (by linarith)

/-! ## Bits that are shifted out -/

/-- A fraction stands behind a mantissa and its two bits: the mantissa is its whole part, the first
bit tells that it is at least a half more, the second that it is neither of the two. -/
structure Stands (em : ExtendedMantissa) (x : Rat) : Prop where
  /-- The fraction is not less, -/
  mantissa_le : (em.mantissa : Rat) ≤ x
  /-- and less than the next whole number. -/
  lt_succ : x < em.mantissa + 1
  /-- The first bit. -/
  roundBit : em.roundBit = true ↔ em.mantissa + 1 / 2 ≤ x
  /-- The second bit. -/
  stickyBit : em.stickyBit = true ↔ x ≠ em.mantissa ∧ x ≠ em.mantissa + 1 / 2

theorem Stands.floor_eq {em : ExtendedMantissa} {x : Rat} (h : Stands em x) :
    ⌊x⌋₊ = em.mantissa :=
  (Nat.floor_eq_iff ((Nat.cast_nonneg _).trans h.mantissa_le)).mpr ⟨h.mantissa_le, h.lt_succ⟩

/-- **The mantissa is rounded to the nearest whole number.** -/
theorem Stands.roundedMantissa_eq {em : ExtendedMantissa} {x : Rat} (h : Stands em x) :
    em.roundedMantissa = nearestEven x := by
  rw [nearestEven, h.floor_eq]
  obtain ⟨hle, hlt, hround, hsticky⟩ := h
  obtain ⟨mantissa, round, sticky⟩ := em
  dsimp only at hle hlt hround hsticky ⊢
  cases round with
  | false =>
    have hbelow : x < mantissa + 1 / 2 := by simpa using hround
    rw [if_pos hbelow]
    cases sticky <;> rfl
  | true =>
    have habove : mantissa + 1 / 2 ≤ x := hround.mp rfl
    rw [if_neg habove.not_gt]
    cases sticky with
    | false =>
      have hne : x ≠ mantissa := by linarith
      rw [if_pos (by simpa [hne] using hsticky)]
      rfl
    | true =>
      rw [if_neg (hsticky.mp rfl).2]
      rfl

theorem stands_exact (mantissa : Nat) :
    Stands (.ofMantissaAndAccuracy mantissa .exact) mantissa where
  mantissa_le := le_rfl
  lt_succ := by simp [ExtendedMantissa.ofMantissaAndAccuracy]
  roundBit := by simp [ExtendedMantissa.ofMantissaAndAccuracy]
  stickyBit := by simp [ExtendedMantissa.ofMantissaAndAccuracy]

theorem stands_inexact (mantissa : Nat) {fraction : Rat} {order : Ordering} (hpos : 0 < fraction)
    (hlt : fraction < 1) (hhalf : order.Compares fraction (1 / 2)) :
    Stands (.ofMantissaAndAccuracy mantissa (.inexact order)) (mantissa + fraction) := by
  have hle : (mantissa : Rat) ≤ mantissa + fraction := by linarith
  have hsucc : mantissa + fraction < mantissa + 1 := by linarith
  have hne : (mantissa : Rat) + fraction ≠ mantissa := fun h => by linarith
  cases order with
  | lt =>
    have hbelow : mantissa + fraction < mantissa + 1 / 2 := add_lt_add_right hhalf _
    exact ⟨hle, hsucc, iff_of_false Bool.false_ne_true hbelow.not_ge,
      iff_of_true rfl ⟨hne, hbelow.ne⟩⟩
  | eq =>
    have hequal : (mantissa : Rat) + fraction = mantissa + 1 / 2 := congrArg _ hhalf
    exact ⟨hle, hsucc, iff_of_true rfl hequal.ge,
      iff_of_false Bool.false_ne_true fun h => h.2 hequal⟩
  | gt =>
    have habove : mantissa + 1 / 2 < mantissa + fraction := add_lt_add_right hhalf _
    exact ⟨hle, hsucc, iff_of_true rfl habove.le, iff_of_true rfl ⟨hne, habove.ne'⟩⟩

/-- A remainder is compared with half of the divisor. -/
theorem compares_half (rest : Nat) {b : Nat} (hb : 0 < b) :
    (compare (2 * rest) b).Compares ((rest : Rat) / b) (1 / 2) := by
  have hpos : (0 : Rat) < b := Nat.cast_pos.mpr hb
  obtain hless | hequal | hmore := lt_trichotomy (2 * rest) b
  · rw [compare_lt_iff_lt.mpr hless]
    have : 2 * (rest : Rat) < b := by exact_mod_cast hless
    exact (div_lt_iff₀ hpos).mpr (by linarith)
  · rw [compare_eq_iff_eq.mpr hequal]
    have : 2 * (rest : Rat) = b := by exact_mod_cast hequal
    exact (div_eq_iff hpos.ne').mpr (by linarith)
  · rw [compare_gt_iff_gt.mpr hmore]
    have : (b : Rat) < 2 * rest := by exact_mod_cast hmore
    exact (lt_div_iff₀ hpos).mpr (by linarith)

/-- A quotient, with what the remainder tells of its fraction. -/
theorem stands_fraction (a : Nat) {b : Nat} (hb : 0 < b) :
    Stands (.ofMantissaAndAccuracy (a / b) (accuracyOfFraction (a % b) b)) (a / b) := by
  have hpos : (0 : Rat) < b := Nat.cast_pos.mpr hb
  have hquotient : (a : Rat) / b = (a / b : Nat) + (a % b : Nat) / b := by
    rw [eq_comm, ← mul_right_cancel_iff_of_pos hpos]
    field_simp
    exact_mod_cast Nat.div_add_mod' a b
  rw [hquotient, accuracyOfFraction]
  split
  · rename_i hzero
    rw [hzero, Nat.cast_zero, zero_div, add_zero]
    exact stands_exact _
  · rename_i hrest
    exact stands_inexact _ (div_pos (Nat.cast_pos.mpr (Nat.pos_of_ne_zero hrest)) hpos)
      ((div_lt_one hpos).mpr (Nat.cast_lt.mpr (Nat.mod_lt a hb))) (compares_half _ hb)

/-- The two bits together tell whether anything was shifted out. -/
theorem Stands.ne_mantissa_iff {em : ExtendedMantissa} {x : Rat} (h : Stands em x) :
    (em.roundBit || em.stickyBit) = true ↔ x ≠ em.mantissa := by
  rw [Bool.or_eq_true, h.roundBit, h.stickyBit]
  constructor
  · rintro (hround | hsticky)
    · linarith
    · exact hsticky.1
  · intro hne
    by_cases hhalf : x = em.mantissa + 1 / 2
    · exact .inl hhalf.ge
    · exact .inr ⟨hne, hhalf⟩

theorem Stands.shiftRightOne {em : ExtendedMantissa} {x : Rat} (h : Stands em x) :
    Stands em.shiftRightOne (x / 2) := by
  have hdigits : (em.mantissa : Rat) = 2 * (em.mantissa / 2 : Nat) + (em.mantissa % 2 : Nat) := by
    exact_mod_cast (Nat.div_add_mod em.mantissa 2).symm
  have hle := h.mantissa_le
  have hlt := h.lt_succ
  -- The last digit becomes the first bit, and what stood behind it the second.
  obtain hlast | hlast := Nat.mod_two_eq_zero_or_one em.mantissa
  · have hbit : em.shiftRightOne.roundBit = false := by
      rw [ExtendedMantissa.shiftRightOne, hlast]
      rfl
    rw [hlast, Nat.cast_zero, add_zero] at hdigits
    rw [hdigits] at hle hlt
    refine ⟨?_, ?_, iff_of_false (by rw [hbit]; decide) ?_, h.ne_mantissa_iff.trans ?_⟩ <;>
      dsimp only [ExtendedMantissa.shiftRightOne]
    · linarith
    · linarith
    · linarith
    · refine ⟨fun hne => ⟨fun heq => hne ?_, fun heq => ?_⟩, fun hne heq => hne.1 ?_⟩ <;> linarith
  · have hbit : em.shiftRightOne.roundBit = true := by
      rw [ExtendedMantissa.shiftRightOne, hlast]
      rfl
    rw [hlast, Nat.cast_one] at hdigits
    rw [hdigits] at hle hlt
    refine ⟨?_, ?_, iff_of_true hbit ?_, h.ne_mantissa_iff.trans ?_⟩ <;>
      dsimp only [ExtendedMantissa.shiftRightOne]
    · linarith
    · linarith
    · linarith
    · refine ⟨fun hne => ⟨fun heq => ?_, fun heq => hne ?_⟩, fun hne heq => hne.2 ?_⟩ <;> linarith

/-- **Shifting divides.** -/
theorem Stands.shiftRight {em : ExtendedMantissa} {x : Rat} (h : Stands em x) (places : Nat) :
    Stands (em >>> places) (x / 2 ^ places) := by
  induction places with
  | zero =>
    change Stands em _
    simpa using h
  | succ places ih =>
    rw [pow_succ, ← div_div]
    exact ih.shiftRightOne

/-! ## Units -/

/-- The units that a fraction is measured in: less than `2 ^ 53` of them, and at least `2 ^ 52` but
for the fractions that the smallest units are left to. -/
def place (u : Rat) : Int := max (Int.log 2 u - 52) (-1074)

/-- The nearest fraction that can be written with 53 digits. -/
def rounded (u : Rat) : Rat := nearestEven (u / 2 ^ place u) * 2 ^ place u

theorem unit_pos (e : Int) : (0 : Rat) < 2 ^ e := zpow_pos two_pos e

theorem div_unit_lt {u : Rat} : u / 2 ^ place u < 2 ^ 53 := by
  rw [div_lt_iff₀ (unit_pos _), ← zpow_natCast, ← zpow_add₀ two_ne_zero]
  refine (Int.lt_zpow_succ_log_self one_lt_two u).trans_le (zpow_le_zpow_right₀ one_le_two ?_)
  rw [place]
  omega

theorem le_div_unit {u : Rat} (hu : 0 < u) (h : -1074 < place u) : 2 ^ 52 ≤ u / 2 ^ place u := by
  rw [place] at h
  rw [le_div_iff₀ (unit_pos _), ← zpow_natCast, ← zpow_add₀ two_ne_zero]
  calc (2 : Rat) ^ ((52 : Nat) + place u) ≤ 2 ^ Int.log 2 u :=
        zpow_le_zpow_right₀ one_le_two (by rw [place]; omega)
    _ ≤ u := Int.zpow_log_le_self one_lt_two hu

theorem nearestEven_div_unit_le {u : Rat} : nearestEven (u / 2 ^ place u) ≤ 2 ^ 53 := by
  have h := nearestEven_mono div_unit_lt.le (x := u / 2 ^ place u)
  rwa [show (2 : Rat) ^ 53 = (2 ^ 53 : Nat) by norm_num, nearestEven_natCast] at h

theorem le_nearestEven_div_unit {u : Rat} (hu : 0 < u) (h : -1074 < place u) :
    2 ^ 52 ≤ nearestEven (u / 2 ^ place u) := by
  have h := nearestEven_mono (le_div_unit hu h)
  rwa [show (2 : Rat) ^ 52 = (2 ^ 52 : Nat) by norm_num, nearestEven_natCast] at h

@[simp] theorem rounded_zero : rounded 0 = 0 := by
  have h := nearestEven_natCast 0
  rw [Nat.cast_zero] at h
  rw [rounded, zero_div, h, Nat.cast_zero, zero_mul]

theorem rounded_nonneg (u : Rat) : 0 ≤ rounded u :=
  mul_nonneg (Nat.cast_nonneg _) (unit_pos _).le

theorem place_mono {u v : Rat} (hu : 0 < u) (h : u ≤ v) : place u ≤ place v :=
  max_le_max_right _ (Int.sub_le_sub_right (Int.log_mono_right hu h) 52)

/-- **Rounding keeps the order.** -/
theorem rounded_mono {u v : Rat} (hu : 0 ≤ u) (h : u ≤ v) : rounded u ≤ rounded v := by
  obtain rfl | hu := hu.eq_or_lt
  · rw [rounded_zero]
    exact rounded_nonneg v
  obtain hplace | hplace := (place_mono hu h).lt_or_eq
  · -- The greatest number of the smaller units is at most the least number of the larger ones.
    have hlow : (nearestEven (u / 2 ^ place u) : Rat) ≤ 2 ^ 53 := by
      exact_mod_cast nearestEven_div_unit_le
    have hhigh : (2 : Rat) ^ 52 ≤ nearestEven (v / 2 ^ place v) := by
      exact_mod_cast le_nearestEven_div_unit (hu.trans_le h)
        (lt_of_le_of_lt (le_max_right _ _) hplace)
    calc rounded u ≤ 2 ^ 53 * 2 ^ place u := mul_le_mul_of_nonneg_right hlow (unit_pos _).le
      _ = 2 ^ 52 * 2 ^ (place u + 1) := by rw [zpow_add_one₀ two_ne_zero]; ring
      _ ≤ 2 ^ 52 * 2 ^ place v :=
        mul_le_mul_of_nonneg_left (zpow_le_zpow_right₀ one_le_two hplace) (by positivity)
      _ ≤ rounded v := mul_le_mul_of_nonneg_right hhigh (unit_pos _).le
  · rw [rounded, rounded, hplace]
    refine mul_le_mul_of_nonneg_right (Nat.cast_le.mpr (nearestEven_mono ?_)) (unit_pos _).le
    exact div_le_div_of_nonneg_right h (unit_pos _).le

/-! ## The machine rounds -/

theorem log_mul_unit {x : Rat} {mantissa : Nat} (hpos : 0 < mantissa) (hle : mantissa ≤ x)
    (hlt : x < mantissa + 1) (e : Int) : Int.log 2 (x * 2 ^ e) = mantissa.log2 + e := by
  have hlow : (2 : Rat) ^ mantissa.log2 ≤ mantissa := by
    exact_mod_cast Nat.log2_self_le hpos.ne'
  have hhigh : (mantissa : Rat) + 1 ≤ 2 ^ (mantissa.log2 + 1) := by
    exact_mod_cast (Nat.log2_lt hpos.ne').mp (Nat.lt_succ_self _)
  have hx : 0 < x * 2 ^ e := mul_pos ((Nat.cast_pos.mpr hpos).trans_le hle) (unit_pos e)
  refine le_antisymm (Int.lt_add_one_iff.mp ?_) ?_
  · refine (Int.lt_zpow_iff_log_lt one_lt_two hx).mp ?_
    calc x * 2 ^ e < 2 ^ (mantissa.log2 + 1) * 2 ^ e :=
          mul_lt_mul_of_pos_right (hlt.trans_le hhigh) (unit_pos e)
      _ = (2 : Nat) ^ (mantissa.log2 + e + 1) := by
          rw [Nat.cast_two, ← zpow_natCast, ← zpow_add₀ two_ne_zero]
          congr 1
          omega
  · refine (Int.zpow_le_iff_le_log one_lt_two hx).mp ?_
    calc ((2 : Nat) : Rat) ^ (mantissa.log2 + e) = 2 ^ mantissa.log2 * 2 ^ e := by
          rw [Nat.cast_two, zpow_add₀ two_ne_zero, zpow_natCast]
      _ ≤ x * 2 ^ e := mul_le_mul_of_nonneg_right (hlow.trans hle) (unit_pos e).le

theorem targetExponent_eq {m : Nat} {e : Int} :
    Format.binary64.targetExponent (totalExponent m e) = max (m.log2 + e - 52) (-1074) := by
  rw [Format.targetExponent, totalExponent]
  change max ((m.log2 : Int) + 1 + e - 53) (-1074) = _
  omega

@[simp] theorem mantissa_ofMantissaAndAccuracy (m : Nat) (accuracy : Accuracy) :
    (ExtendedMantissa.ofMantissaAndAccuracy m accuracy).mantissa = m := by
  cases accuracy with
  | exact => rfl
  | inexact order => cases order <;> rfl

/-- The machine finds the units of a fraction by its mantissa. -/
theorem targetExponent_eq_place {m : Nat} {accuracy : Accuracy} {x : Rat} {e : Int}
    (h : Stands (.ofMantissaAndAccuracy m accuracy) x) (hx : 0 < x) (he : e ≤ place (x * 2 ^ e)) :
    Format.binary64.targetExponent (totalExponent m e) = place (x * 2 ^ e) := by
  have hle := h.mantissa_le
  have hlt := h.lt_succ
  rw [mantissa_ofMantissaAndAccuracy] at hle hlt
  rw [targetExponent_eq]
  obtain rfl | hpos := m.eq_zero_or_pos
  · -- A fraction of one unit: its digits begin past those of the smallest unit.
    have hlog : Int.log 2 (x * 2 ^ e) < e := by
      refine (Int.lt_zpow_iff_log_lt one_lt_two (mul_pos hx (unit_pos e))).mp ?_
      rw [Nat.cast_two]
      exact mul_lt_of_lt_one_left (unit_pos e) (by simpa using hlt)
    rw [place] at he ⊢
    rw [Nat.log2_zero]
    omega
  · rw [place, log_mul_unit hpos hle hlt]

/-- A sign before a fraction. -/
def signed (sign : Sign) (u : Rat) : Rat := if isNegative sign then -u else u

/-- The least magnitude that is too large for a float. -/
def edge : Rat := 2 ^ 1024

/-- A float that is taken apart denotes a fraction.  The infinities denote the first fractions that
are too large for a float. -/
inductive Denotes : UnpackedFloat → Rat → Prop where
  | zero (sign : Sign) : Denotes (.zero sign) 0
  | finite (sign : Sign) {mantissa : Nat} {exponent : Int} (hpos : 0 < mantissa)
      (hfits : Fits mantissa exponent) :
      Denotes (.finite sign mantissa exponent hpos) (signed sign (magnitude mantissa exponent))
  | infinity (sign : Sign) : Denotes (.infinity sign) (signed sign edge)

/-- The float of a mantissa that has been rounded, one place further when it has 54 digits. -/
def carried (sign : Sign) (mantissa : Nat) (exponent : Int) : UnpackedFloat :=
  let (em, exponent) := shiftToTargetExponent Format.binary64 mantissa exponent .exact
  if h : em.mantissa = 0 then .zero sign
  else .finite sign em.mantissa exponent (Nat.pos_of_ne_zero h)

theorem denotes_carried (sign : Sign) {m : Nat} {e : Int} (hle : m ≤ 2 ^ 53) (he : -1074 ≤ e)
    (hge : -1074 < e → 2 ^ 52 ≤ m) : Denotes (carried sign m e) (signed sign (magnitude m e)) := by
  rw [carried, shiftToTargetExponent, shiftToExponent, targetExponent_eq]
  obtain hlt | rfl := hle.lt_or_eq
  · have hstay : (max ((m.log2 : Int) + e - 52) (-1074) - e).toNat = 0 := by
      have hlog : m.log2 < 53 := by
        obtain rfl | hpos := m.eq_zero_or_pos
        · decide
        · exact (Nat.log2_lt hpos.ne').mpr hlt
      omega
    dsimp only
    rw [hstay]
    change Denotes (if h : m = 0 then _ else .finite sign m (e + 0) _) _
    by_cases hzero : m = 0
    · rw [dif_pos hzero, hzero, magnitude, Nat.cast_zero, zero_mul, signed, neg_zero, ite_self]
      exact .zero sign
    · rw [dif_neg hzero, add_zero]
      exact .finite sign (Nat.pos_of_ne_zero hzero) ⟨hlt, he, hge⟩
  · have hcarry : (max (((2 ^ 53 : Nat).log2 : Int) + e - 52) (-1074) - e).toNat = 1 := by
      rw [Nat.log2_two_pow]
      omega
    have hmagnitude : magnitude (2 ^ 53) e = magnitude (2 ^ 52) (e + 1) := by
      rw [magnitude, magnitude, zpow_add_one₀ two_ne_zero]
      push_cast
      ring
    dsimp only
    rw [hcarry, hmagnitude]
    exact .finite sign (by decide) ⟨by decide, by omega, fun _ => le_rfl⟩

/-- **The machine rounds to the nearest fraction.** -/
theorem denotes_roundWithAccuracy (sign : Sign) {m : Nat} {accuracy : Accuracy} {x : Rat} {e : Int}
    (h : Stands (.ofMantissaAndAccuracy m accuracy) x) (hx : 0 < x) (he : e ≤ place (x * 2 ^ e)) :
    Denotes (roundWithAccuracy Format.binary64 sign m e accuracy)
      (signed sign (rounded (x * 2 ^ e))) := by
  have hshift := h.shiftRight (place (x * 2 ^ e) - e).toNat
  have hdiv : x / 2 ^ (place (x * 2 ^ e) - e).toNat = x * 2 ^ e / 2 ^ place (x * 2 ^ e) := by
    rw [← zpow_natCast, Int.toNat_of_nonneg (Int.sub_nonneg.mpr he), zpow_sub₀ two_ne_zero]
    field_simp
  change Denotes (carried sign
    (shiftToTargetExponent Format.binary64 m e accuracy).1.roundedMantissa
    (shiftToTargetExponent Format.binary64 m e accuracy).2) _
  rw [shiftToTargetExponent, shiftToExponent, targetExponent_eq_place h hx he]
  dsimp only
  rw [hshift.roundedMantissa_eq, hdiv, Int.toNat_of_nonneg (Int.sub_nonneg.mpr he),
    add_sub_cancel]
  exact denotes_carried sign nearestEven_div_unit_le (le_max_right _ _)
    (le_nearestEven_div_unit (mul_pos hx (unit_pos e)))

end ZGrid.Float64
