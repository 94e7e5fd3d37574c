import ZGrid.Number.Style
import ZGrid.Proofs.DecimalFloat
import ZGrid.Proofs.NumeralText

/-!
# Proofs/ShortestRead — a float is read back from its shortest decimal

The decimals around a float that are rounded to it fill an interval (`Near.rounded_eq`).  The grids
of powers of ten are tried from a coarse one on, and a point that lies in the interval is taken:

```
   10 ^ k           ●─────────(─────┼──)──────●       none
   10 ^ (k - 1)     ●──●──●──●(─●──●┼─●)─●──●─●       the nearest
```

Twenty grids are tried, and the last of them is so fine that a point follows the float within the
interval (`ten_zpow_lt`, `reads_above`), so the decimal that is written is always one that reads
back (`reads_digits`), in each of the three layouts (`Style.toFloat_numeral?`).
-/

namespace ZGrid

open Float64 Binary

namespace Shortest

variable {tie : Tie} {m n : Nat} {e k : Int} {v : Rat}

/-! ## The interval of a float -/

/-- A fraction lies in the interval of the decimals that are read as a float. -/
structure Near (m : Nat) (e : Int) (v : Rat) : Prop where
  /-- It is not below the lower end, -/
  low_le : magnitude (low m e) (e - 2) ≤ v
  /-- and not above the upper one. -/
  le_high : v ≤ magnitude (high m) (e - 2)
  /-- The ends are taken in when the mantissa is even. -/
  ends : m % 2 = 0 ∨ magnitude (low m e) (e - 2) < v ∧ v < magnitude (high m) (e - 2)

theorem magnitude_quarters (a : Nat) (e : Int) : magnitude a (e - 2) = a / 4 * 2 ^ e := by
  rw [magnitude, zpow_sub₀ two_ne_zero]
  norm_num
  ring

/-- The lower end is half of a place below the float, or a quarter where the places get finer. -/
theorem cast_low (hpos : 0 < m) (e : Int) : (low m e : Rat) / 4
    = if m = 2 ^ 52 ∧ e > -1074 then (m : Rat) - 1 / 4 else m - 1 / 2 := by
  rw [low]
  change ((if m = 2 ^ 52 ∧ e > -1074 then 4 * m - 1 else 4 * m - 2 : Nat) : Rat) / 4 = _
  split_ifs
  · rw [Nat.cast_sub (by omega)]
    push_cast
    ring
  · rw [Nat.cast_sub (by omega)]
    push_cast
    ring

theorem sub_half_le_low (hpos : 0 < m) (e : Int) : (m : Rat) - 1 / 2 ≤ (low m e : Rat) / 4 := by
  rw [cast_low hpos]
  split_ifs <;> linarith

theorem cast_high (m : Nat) : (high m : Rat) / 4 = m + 1 / 2 := by
  rw [high]
  push_cast
  ring

/-- The whole number in whose interval a fraction lies. -/
theorem nearestEven_eq {x : Rat} {n : Nat} (hx : 0 ≤ x) (hlow : n - 1 / 2 ≤ x)
    (hhigh : x ≤ n + 1 / 2) (hends : n % 2 = 0 ∨ n - 1 / 2 < x ∧ x < n + 1 / 2) :
    nearestEven x = n := by
  obtain hle | hlt := le_or_gt (n : Rat) x
  · have hfloor : ⌊x⌋₊ = n := (Nat.floor_eq_iff hx).mpr ⟨hle, by linarith⟩
    rw [nearestEven, hfloor]
    split_ifs with hbelow hhalf
    · rfl
    · obtain heven | ⟨-, hstrict⟩ := hends
      · omega
      · exact absurd hstrict hbelow
    · exact absurd (hhigh.antisymm (not_lt.mp hbelow)) hhalf
  · obtain ⟨k, rfl⟩ : ∃ k, n = k + 1 :=
      Nat.exists_eq_add_one.mpr (Nat.cast_pos.mp (hx.trans_lt hlt))
    push_cast at hlow hlt hends
    have hfloor : ⌊x⌋₊ = k := (Nat.floor_eq_iff hx).mpr ⟨by linarith, hlt⟩
    rw [nearestEven, hfloor]
    split_ifs with hbelow hhalf
    · linarith
    · obtain heven | ⟨hstrict, -⟩ := hends
      · omega
      · linarith
    · rfl

/-- The place of a fraction of 53 digits, or of the smallest units. -/
theorem place_eq {p : Int} (hpos : 0 < v) (hp : -1074 ≤ p) (hhigh : v < 2 ^ (p + 53))
    (hlow : p = -1074 ∨ 2 ^ (p + 52) ≤ v) : place v = p := by
  have hbelow : Int.log 2 v < p + 53 :=
    (Int.lt_zpow_iff_log_lt one_lt_two hpos).mp (by exact_mod_cast hhigh)
  rw [place]
  obtain rfl | hlow := hlow
  · omega
  · have habove : p + 52 ≤ Int.log 2 v :=
      (Int.zpow_le_iff_le_log one_lt_two hpos).mp (by exact_mod_cast hlow)
    omega

/-- Just below the float `2 ^ 52 · 2 ^ e` the places are finer. -/
theorem rounded_of_lt (he : -1074 < e) (hlow : (2 : Rat) ^ 52 - 1 / 4 ≤ v / 2 ^ e)
    (hhigh : v / 2 ^ e < 2 ^ 52) : rounded v = magnitude (2 ^ 52) e := by
  have hsplit : (2 : Rat) ^ e = 2 ^ (e - 1) * 2 := by
    rw [← zpow_add_one₀ two_ne_zero, sub_add_cancel]
  have hscaled : v / 2 ^ (e - 1) = 2 * (v / 2 ^ e) := by
    rw [hsplit]
    field_simp
  have hv : 0 < v := (div_pos_iff_of_pos_right (unit_pos e)).mp (by linarith)
  have hplace : place v = e - 1 := by
    refine place_eq hv (by omega) ?_ (.inr ?_)
    · calc v < 2 ^ 52 * 2 ^ e := (div_lt_iff₀ (unit_pos e)).mp hhigh
        _ = 2 ^ (e - 1 + 53) := by
          rw [← zpow_natCast, ← zpow_add₀ two_ne_zero]
          congr 1
          omega
    · calc (2 : Rat) ^ (e - 1 + 52) = 2 ^ 52 * 2 ^ (e - 1) := by
            rw [← zpow_natCast, ← zpow_add₀ two_ne_zero, add_comm]
            rfl
        _ ≤ v := by
          rw [← le_div_iff₀ (unit_pos (e - 1)), hscaled]
          linarith
  have hnearest : nearestEven (v / 2 ^ (e - 1)) = 2 ^ 53 := by
    rw [hscaled]
    refine nearestEven_eq (by linarith) ?_ ?_ (.inl (by decide)) <;> push_cast <;> linarith
  rw [rounded, hplace, hnearest, magnitude, hsplit]
  push_cast
  ring

/-- **What lies in the interval of a float is rounded to it.** -/
theorem Near.rounded_eq (h : Near m e v) (hpos : 0 < m) (hfits : Fits m e) :
    rounded v = magnitude m e := by
  obtain ⟨hlow, hhigh, hends⟩ := h
  have hunit := unit_pos e
  rw [magnitude_quarters, ← le_div_iff₀ hunit] at hlow
  rw [magnitude_quarters, cast_high, ← div_le_iff₀ hunit] at hhigh
  rw [magnitude_quarters, magnitude_quarters, cast_high, ← lt_div_iff₀ hunit,
    ← div_lt_iff₀ hunit] at hends
  have hone : (1 : Rat) ≤ m := by exact_mod_cast hpos
  have hhalf := sub_half_le_low hpos e
  have hv : 0 < v := (div_pos_iff_of_pos_right hunit).mp (by linarith)
  by_cases hfiner : -1074 < e ∧ v < 2 ^ (e + 52)
  · obtain ⟨he, hlt⟩ := hfiner
    have hcut : v / 2 ^ e < 2 ^ 52 := by
      rw [div_lt_iff₀ hunit, ← zpow_natCast, ← zpow_add₀ two_ne_zero, add_comm]
      exact hlt
    obtain rfl : m = 2 ^ 52 := by
      have hnear : (m : Rat) < (2 ^ 52 + 1 : Nat) := by
        push_cast
        linarith
      exact (Nat.lt_succ_iff.mp (Nat.cast_lt.mp hnear)).antisymm (hfits.mantissa_ge he)
    rw [cast_low hpos, if_pos ⟨rfl, he⟩] at hlow
    push_cast at hlow
    exact rounded_of_lt he hlow hcut
  · have hlast : (m : Rat) + 1 ≤ 2 ^ 53 := by exact_mod_cast hfits.mantissa_lt
    have hplace : place v = e := by
      refine place_eq hv hfits.exponent_ge ?_ ?_
      · calc v < 2 ^ 53 * 2 ^ e := (div_lt_iff₀ hunit).mp (by linarith)
          _ = 2 ^ (e + 53) := by
            rw [← zpow_natCast, ← zpow_add₀ two_ne_zero, add_comm]
            rfl
      · obtain he | he := hfits.exponent_ge.eq_or_lt
        · exact .inl he.symm
        · exact .inr (not_lt.mp fun hlt => hfiner ⟨he, hlt⟩)
    rw [rounded, hplace, magnitude, nearestEven_eq (div_pos hv hunit).le (hhalf.trans hlow) hhigh
      (hends.imp_right (And.imp_left hhalf.trans_lt))]

/-! ## One grid -/

namespace Scale

theorem point_pos (e k : Int) : 0 < (Scale.of e k).point :=
  Nat.mul_pos (Nat.pow_pos (by decide)) (Nat.pow_pos (by decide))

/-- How many scaled lengths make up one. -/
def unit (e k : Int) : Rat := 10 ^ (-k).toNat * 2 ^ (2 - e).toNat

theorem unit_pos (e k : Int) : 0 < unit e k :=
  mul_pos (pow_pos (by norm_num) _) (pow_pos (by norm_num) _)

theorem zpow_mul_pow_toNat {base : Rat} (hbase : base ≠ 0) (k : Int) :
    base ^ k * base ^ (-k).toNat = base ^ k.toNat := by
  rw [← zpow_natCast, ← zpow_natCast, ← zpow_add₀ hbase]
  congr 1
  omega

theorem cast_point (e k : Int) (n : Nat) :
    ((n * (Scale.of e k).point : Nat) : Rat) = decimal n k * unit e k := by
  rw [Scale.of, unit, decimal]
  push_cast [Nat.pow_eq]
  rw [← zpow_mul_pow_toNat (by norm_num : (10 : Rat) ≠ 0) k]
  ring

theorem cast_quarter (e k : Int) (n : Nat) :
    ((n * (Scale.of e k).quarter : Nat) : Rat) = magnitude n (e - 2) * unit e k := by
  have htwo := zpow_mul_pow_toNat (two_ne_zero : (2 : Rat) ≠ 0) (e - 2)
  rw [neg_sub] at htwo
  rw [Scale.of, unit, magnitude]
  push_cast [Nat.pow_eq]
  rw [← htwo]
  ring

theorem quarter_le_point_iff {a : Nat} :
    a * (Scale.of e k).quarter ≤ n * (Scale.of e k).point ↔ magnitude a (e - 2) ≤ decimal n k := by
  rw [← Nat.cast_le (α := Rat), cast_point, cast_quarter, mul_le_mul_iff_left₀ (unit_pos e k)]

theorem point_le_quarter_iff {a : Nat} :
    n * (Scale.of e k).point ≤ a * (Scale.of e k).quarter ↔ decimal n k ≤ magnitude a (e - 2) := by
  rw [← Nat.cast_le (α := Rat), cast_point, cast_quarter, mul_le_mul_iff_left₀ (unit_pos e k)]

end Scale

/-- The points that read back are those in the interval. -/
theorem reads_iff : reads m e (Scale.of e k) n = true ↔ Near m e (decimal n k) := by
  rw [reads]
  split_ifs with heven
  · rw [decide_eq_true_iff, Scale.quarter_le_point_iff, Scale.point_le_quarter_iff]
    exact ⟨fun h => ⟨h.1, h.2, .inl heven⟩, fun h => ⟨h.low_le, h.le_high⟩⟩
  · rw [decide_eq_true_iff, ← not_le, ← not_le, Scale.quarter_le_point_iff,
      Scale.point_le_quarter_iff, not_le, not_le]
    exact ⟨fun h => ⟨h.1.le, h.2.le, .inr h⟩, fun h => h.ends.resolve_left heven⟩

/-- The last point of a grid that is not past a value. -/
def below (m : Nat) (e k : Int) : Nat := 4 * m * (Scale.of e k).quarter / (Scale.of e k).point

/-- A point is taken that reads back, unless neither of the two around the value does. -/
theorem onGrid?_cases (tie : Tie) (m : Nat) (e k : Int) :
    (∃ n, onGrid? tie m e k = some n ∧ reads m e (Scale.of e k) n = true)
      ∨ onGrid? tie m e k = none ∧ reads m e (Scale.of e k) (below m e k + 1) = false := by
  unfold onGrid? below
  dsimp only
  cases hbelow : reads m e (Scale.of e k)
      (4 * m * (Scale.of e k).quarter / (Scale.of e k).point) <;>
    cases habove : reads m e (Scale.of e k)
      (4 * m * (Scale.of e k).quarter / (Scale.of e k).point + 1)
  · exact .inr ⟨rfl, rfl⟩
  · exact .inl ⟨_, rfl, habove⟩
  · exact .inl ⟨_, rfl, hbelow⟩
  · left
    cases tie <;> dsimp only <;> split_ifs
    all_goals first
      | exact ⟨_, rfl, hbelow⟩
      | exact ⟨_, rfl, habove⟩

theorem low_lt (hpos : 0 < m) (e : Int) : low m e < 4 * m := by
  rw [low]
  split <;> omega

/-- On a grid that is finer than half of a binary place, the point that follows a value reads
back. -/
theorem reads_above (hpos : 0 < m) (h : (Scale.of e k).point < 2 * (Scale.of e k).quarter) :
    reads m e (Scale.of e k) (below m e k + 1) = true := by
  have hlow : low m e * (Scale.of e k).quarter < (below m e k + 1) * (Scale.of e k).point :=
    calc low m e * (Scale.of e k).quarter ≤ 4 * m * (Scale.of e k).quarter :=
          Nat.mul_le_mul_right _ (low_lt hpos e).le
      _ < (Scale.of e k).point * (below m e k + 1) :=
          Nat.lt_mul_div_succ _ (Scale.point_pos e k)
      _ = (below m e k + 1) * (Scale.of e k).point := Nat.mul_comm _ _
  have hhigh : (below m e k + 1) * (Scale.of e k).point < high m * (Scale.of e k).quarter := by
    have hbelow : below m e k * (Scale.of e k).point ≤ 4 * m * (Scale.of e k).quarter :=
      Nat.div_mul_le_self _ _
    rw [high, Nat.succ_mul, Nat.add_mul]
    omega
  rw [reads]
  split_ifs
  · exact decide_eq_true ⟨hlow.le, hhigh.le⟩
  · exact decide_eq_true ⟨hlow, hhigh⟩

/-! ## The search -/

/-- The grids are tried until one has a point that reads back. -/
theorem reads_search (hpos : 0 < m) {grids : Nat} (h : ∃ j < grids,
    (Scale.of e (k - j)).point < 2 * (Scale.of e (k - j)).quarter) :
    reads m e (Scale.of e (search tie m e grids k).2) (search tie m e grids k).1 = true := by
  induction grids generalizing k with
  | zero =>
    obtain ⟨j, hj, -⟩ := h
    exact absurd hj (Nat.not_lt_zero j)
  | succ grids ih =>
    rw [search]
    obtain ⟨n, hgrid, hreads⟩ | ⟨hgrid, habove⟩ := onGrid?_cases tie m e k
    · rw [hgrid]
      exact hreads
    · rw [hgrid]
      obtain ⟨j, hj, hfine⟩ := h
      cases j with
      | zero =>
        rw [reads_above hpos (by simpa using hfine)] at habove
        cases habove
      | succ j =>
        refine ih ⟨j, Nat.lt_of_succ_lt_succ hj, ?_⟩
        rwa [Nat.cast_succ, Int.add_comm, ← Int.sub_sub] at hfine

/-- A power of ten that is less than half of a binary place.  Powers of ten are compared with powers
of two by `10 ^ 59 ≤ 2 ^ 196` and, below one, by `2 ^ 93 ≤ 10 ^ 28`. -/
theorem ten_zpow_lt {j : Int} (hlow : -1074 ≤ e) (hhigh : e ≤ 971)
    (h : 100000 * j + 174438 ≤ 30103 * e) : (10 : Rat) ^ j < 2 ^ (e - 1) := by
  obtain hj | hj := le_or_gt 0 j
  · refine lt_of_pow_lt_pow_left₀ 59 (Float64.unit_pos _).le ?_
    calc ((10 : Rat) ^ j) ^ 59 = (10 ^ 59) ^ j := by rw [← zpow_natCast, ← zpow_natCast, zpow_comm]
      _ ≤ (2 ^ 196) ^ j := zpow_le_zpow_left₀ hj (by positivity) (by norm_num)
      _ = 2 ^ (196 * j) := by rw [← zpow_natCast, ← zpow_mul]; rfl
      _ < 2 ^ (59 * (e - 1)) := zpow_lt_zpow_right₀ one_lt_two (by omega)
      _ = (2 ^ (e - 1)) ^ 59 := by rw [← zpow_natCast, ← zpow_mul, mul_comm]; rfl
  · have hinverse : ((10 : Rat) ^ 28)⁻¹ ^ (-j) ≤ ((2 : Rat) ^ 93)⁻¹ ^ (-j) :=
      zpow_le_zpow_left₀ (by omega) (by positivity) (inv_anti₀ (by positivity) (by norm_num))
    rw [inv_zpow', inv_zpow', neg_neg] at hinverse
    refine lt_of_pow_lt_pow_left₀ 28 (Float64.unit_pos _).le ?_
    calc ((10 : Rat) ^ j) ^ 28 = (10 ^ 28) ^ j := by rw [← zpow_natCast, ← zpow_natCast, zpow_comm]
      _ ≤ (2 ^ 93) ^ j := hinverse
      _ = 2 ^ (93 * j) := by rw [← zpow_natCast, ← zpow_mul]; rfl
      _ < 2 ^ (28 * (e - 1)) := zpow_lt_zpow_right₀ one_lt_two (by omega)
      _ = (2 ^ (e - 1)) ^ 28 := by rw [← zpow_natCast, ← zpow_mul, mul_comm]; rfl

theorem point_lt_of_zpow_lt (h : (10 : Rat) ^ k < 2 ^ (e - 1)) :
    (Scale.of e k).point < 2 * (Scale.of e k).quarter := by
  have htwo : magnitude 2 (e - 2) = 2 ^ (e - 1) := by
    rw [magnitude, Nat.cast_two, ← zpow_one_add₀ two_ne_zero]
    congr 1
    omega
  refine not_le.mp fun hle => ?_
  rw [← Nat.one_mul (Scale.of e k).point, Scale.quarter_le_point_iff, htwo, decimal, Nat.cast_one,
    one_mul] at hle
  exact hle.not_gt h

/-- **The shortest decimal of a float reads back.** -/
theorem reads_digits (tie : Tie) (hpos : 0 < m) (hfits : Fits m e) (he : e ≤ 971) :
    reads m e (Scale.of e (digits tie m e).2) (digits tie m e).1 = true := by
  have hlog : m.log2 < 53 := (Nat.log2_lt hpos.ne').mpr hfits.mantissa_lt
  rw [digits, if_neg hpos.ne']
  refine reads_search hpos ⟨19, by decide, point_lt_of_zpow_lt ?_⟩
  refine ten_zpow_lt hfits.exponent_ge he ?_
  rw [start]
  omega

/-- Rounding the shortest decimal gives the float, a zero too. -/
theorem rounded_digits (tie : Tie) (hfits : Fits m e) (he : e ≤ 971) :
    rounded (decimal (digits tie m e).1 (digits tie m e).2) = magnitude m e := by
  obtain rfl | hpos := m.eq_zero_or_pos
  · rw [digits, if_pos rfl, decimal, magnitude, Nat.cast_zero, zero_mul, zero_mul, rounded_zero]
  · exact (reads_iff.mp (reads_digits tie hpos hfits he)).rounded_eq hpos hfits

end Shortest

/-! ## Layouts -/

theorem Digit.foldNat_ofNat (start width number : Nat) :
    foldNat start (ofNat width number) = start * 10 ^ width + number % 10 ^ width := by
  induction width generalizing number with
  | zero => simp [ofNat, foldNat, Nat.mod_one]
  | succ width ih =>
    have hlast : ∀ value, foldNat value [⟨number % 10, Nat.mod_lt _ (by decide)⟩]
        = 10 * value + number % 10 := fun _ => rfl
    rw [ofNat, foldNat_append, ih, hlast, pow_succ', Nat.mod_mul]
    ring

namespace Style

/-- Digits that are split off a number stand behind the point. -/
theorem decimal_split (negative : Bool) (n places : Nat) (exponent : Option Int) :
    let numeral : Numeral :=
      ⟨negative, n / 10 ^ places, Digit.ofNat places (n % 10 ^ places), exponent⟩
    decimal numeral.coefficient numeral.scale = decimal n (exponent.getD 0 - places) := by
  dsimp only [Numeral.coefficient, Numeral.scale]
  rw [Digit.foldNat_ofNat, Nat.mod_mod, Nat.div_add_mod', Digit.length_ofNat]

/-- Zeros behind the point do not count. -/
theorem decimal_pad (negative : Bool) (n places : Nat) :
    let numeral : Numeral := ⟨negative, n, Digit.ofNat places 0, none⟩
    decimal numeral.coefficient numeral.scale = decimal n 0 := by
  dsimp only [Numeral.coefficient, Numeral.scale]
  rw [Digit.foldNat_ofNat, Nat.zero_mod, Nat.add_zero, Digit.length_ofNat]
  exact decimal_shift n places 0

theorem negative_layout (style : Style) (negative : Bool) (n : Nat) (k : Int) :
    (style.layout negative n k).negative = negative := by
  rw [layout]
  dsimp only
  split_ifs <;> rfl

/-- **Every layout stands for the decimal that is laid out.** -/
theorem decimal_layout (style : Style) (negative : Bool) (n : Nat) (k : Int) :
    decimal (style.layout negative n k).coefficient (style.layout negative n k).scale
      = decimal n k := by
  have hlength : 0 < (Nat.toDigits 10 n).length := Nat.length_toDigits_pos
  have hzeros : 0 ≤ k → decimal (n * 10 ^ k.natAbs) 0 = decimal n k := fun hk => by
    rw [← decimal_shift n k.natAbs k]
    congr 1
    omega
  rw [layout]
  dsimp only [Nat.pow_eq]
  split_ifs with hpositional hneg
  · rw [decimal_split, Option.getD_none]
    congr 1
    omega
  · exact (decimal_pad negative _ 1).trans (hzeros (not_lt.mp hneg))
  · exact (decimal_pad negative _ 0).trans (hzeros (not_lt.mp hneg))
  · rw [decimal_split, Option.getD_some]
    congr 1
    omega

/-! ## Floats -/

theorem eq_zero_of_ofFloat {x : Float} {negative : Bool} {e : Int}
    (h : ofFloat x = .finite negative 0 e) : x = if negative then -0 else 0 := by
  have hfinite : isFinite x = true := by rw [isFinite, h]
  rw [ofFloat_eq] at h
  cases hunpack : x.toModel.unpack with
  | zero sign =>
    rw [hunpack] at h
    cases h
    cases sign <;> exact eq_of_unpack_eq hfinite (hunpack.trans rfl)
  | finite sign m e hpos =>
    rw [hunpack] at h
    cases h
    exact absurd hpos (Nat.lt_irrefl 0)
  | _ =>
    rw [hunpack] at h
    cases h

theorem toFloat_layout_zero (style : Style) (negative : Bool) (k : Int) :
    (style.layout negative 0 k).toFloat = if negative then -0 else 0 := by
  have hdecimal := decimal_layout style negative 0 k
  rw [decimal, decimal, Nat.cast_zero, zero_mul, mul_eq_zero, Nat.cast_eq_zero] at hdecimal
  have hcoefficient := hdecimal.resolve_right (zpow_ne_zero _ (by norm_num))
  rw [Numeral.toFloat, hcoefficient, Numeral.nearest, if_pos rfl, negative_layout]

/-- The float that a layout is read as. -/
theorem isAt_toFloat_layout (style : Style) (negative : Bool) (n : Nat) (k : Int) :
    IsAt (style.layout negative n k).toFloat
      (held (if negative then -rounded (decimal n k) else rounded (decimal n k))) := by
  have h := (style.layout negative n k).isAt_toFloat
  rw [Numeral.value, negative_layout, decimal_layout] at h
  cases negative with
  | true =>
    rw [if_pos rfl, nearest_neg, nearest, if_neg (decimal_nonneg n k).not_gt] at h
    exact h
  | false =>
    rw [if_neg (by decide), nearest, if_neg (decimal_nonneg n k).not_gt] at h
    exact h

/-- **A float is read back from its numeral**, the sign of a zero included. -/
theorem toFloat_of_numeral? {style : Style} {x : Float} {numeral : Numeral}
    (h : style.numeral? x = some numeral) : numeral.toFloat = x := by
  rw [numeral?] at h
  cases hvalue : ofFloat x with
  | finite negative m e =>
    rw [hvalue] at h
    obtain rfl : style.layout negative (Shortest.digits style.tie m e).1
      (Shortest.digits style.tie m e).2 = numeral := Option.some.inj h
    obtain rfl | hpos := m.eq_zero_or_pos
    · exact (toFloat_layout_zero style negative 0).trans (eq_zero_of_ofFloat hvalue).symm
    have hx : isFinite x = true := by rw [isFinite, hvalue]
    have hexact : exact x = if negative then -magnitude m e else magnitude m e := by
      rw [exact, hvalue]
    have hplace := isAt_toFloat_layout style negative (Shortest.digits style.tie m e).1
      (Shortest.digits style.tie m e).2
    rw [Shortest.rounded_digits style.tie (fits_of_ofFloat hvalue) (exponent_le_of_ofFloat hvalue),
      ← hexact, held_of_abs_le (abs_exact_lt hx).le] at hplace
    have hread := hplace.isFinite_of_lt (abs_exact_lt hx)
    have hne : exact x ≠ 0 := by
      have hmagnitude := (magnitude_pos hpos e).ne'
      rw [hexact]
      split_ifs
      · exact neg_ne_zero.mpr hmagnitude
      · exact hmagnitude
    exact (eq_of_exact_eq hx hread (hplace.eq_exact hread) hne).symm
  | _ =>
    rw [hvalue] at h
    cases h

end Style

end ZGrid
