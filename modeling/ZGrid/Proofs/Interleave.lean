import Mathlib.Tactic.Positivity
import Mathlib.Tactic.Ring
import ZGrid.Curve

/-!
# Proofs/Interleave — an interleaving cut between its low and its high bits

The low bits of a row and a column are the low bits of their interleaving, and the high bits are
its high bits (`interleave_add`):

```
   r₂ c₂ │ r₁ c₁ r₀ c₀      =      4 ^ 2 · (r₂ c₂)  +  (r₁ c₁ r₀ c₀)
```

A division of a key by a power of four is then a division of the row and the column by a power of
two, and `deinterleave` reads the row and the column back.
-/

namespace ZGrid

/-! ## One bit more -/

/-- A lowest bit put behind a row and a column stands at the end of the interleaving. -/
theorem interleave_two_mul_add (bits i j : Nat) (east north : Bool) :
    interleave (bits + 1) (2 * i + east.toNat) (2 * j + north.toNat)
      = 4 * interleave bits i j + (2 * east.toNat + north.toNat) := by
  have heast := east.toNat_lt
  have hnorth := north.toNat_lt
  have hi : (2 * i + east.toNat) / 2 = i := by omega
  have hj : (2 * j + north.toNat) / 2 = j := by omega
  have hr : (2 * i + east.toNat) % 2 = east.toNat := by omega
  have hc : (2 * j + north.toNat) % 2 = north.toNat := by omega
  rw [interleave_succ, hi, hj, hr, hc]

/-- The interleaving of `bits` bits has `2 * bits` of them. -/
theorem interleave_lt (bits row column : Nat) : interleave bits row column < 4 ^ bits := by
  induction bits generalizing row column with
  | zero => simp
  | succ bits ih =>
    have := ih (row / 2) (column / 2)
    rw [interleave_succ, Nat.pow_succ]
    omega

/-- Up to level 31 a key holds the whole interleaving. -/
theorem toNat_cellKey {level : Nat} (h : level ≤ 31) (row column : Nat) :
    (cellKey level row column).toNat = interleave (level + 1) row column := by
  have hlt := interleave_lt (level + 1) row column
  have hbits : 4 ^ (level + 1) ≤ 4 ^ 32 := Nat.pow_le_pow_right (by decide) (by omega)
  rw [cellKey, Nat.toUInt64, UInt64.toNat_ofNat']
  exact Nat.mod_eq_of_lt (by omega)

/-! ## Low and high bits -/

/-- **The cut.**  The induction peels the low bits off one by one; the high ones never change. -/
theorem interleave_add (low high row column : Nat) :
    interleave (low + high) row column
      = 4 ^ low * interleave high (row / 2 ^ low) (column / 2 ^ low)
        + interleave low row column := by
  induction low generalizing row column with
  | zero => simp
  | succ low ih =>
    have hrow : row / 2 / 2 ^ low = row / 2 ^ (low + 1) := by
      rw [Nat.div_div_eq_div_mul, Nat.pow_succ, Nat.mul_comm]
    have hcolumn : column / 2 / 2 ^ low = column / 2 ^ (low + 1) := by
      rw [Nat.div_div_eq_div_mul, Nat.pow_succ, Nat.mul_comm]
    rw [Nat.add_right_comm, interleave_succ, interleave_succ, ih, hrow, hcolumn]
    ring

/-- The high bits of an interleaving are the interleaving of the high bits. -/
theorem interleave_div (low high row column : Nat) :
    interleave (low + high) row column / 4 ^ low
      = interleave high (row / 2 ^ low) (column / 2 ^ low) := by
  rw [interleave_add, Nat.mul_add_div (by positivity),
    Nat.div_eq_of_lt (interleave_lt low row column), Nat.add_zero]

/-- At the first cell of an aligned square all low bits are clear… -/
theorem interleave_first (bits i j : Nat) : interleave bits (2 ^ bits * i) (2 ^ bits * j) = 0 := by
  induction bits with
  | zero => rfl
  | succ bits ih =>
    have hrow : 2 ^ (bits + 1) * i = 2 * (2 ^ bits * i) := by ring
    have hcolumn : 2 ^ (bits + 1) * j = 2 * (2 ^ bits * j) := by ring
    rw [interleave_succ, hrow, hcolumn, Nat.mul_div_cancel_left _ two_pos,
      Nat.mul_div_cancel_left _ two_pos, ih]
    omega

/-- …and at its last cell they are all set. -/
theorem interleave_last (bits i j : Nat) :
    interleave bits (2 ^ bits * (i + 1) - 1) (2 ^ bits * (j + 1) - 1) = 4 ^ bits - 1 := by
  induction bits with
  | zero => rfl
  | succ bits ih =>
    have hpos : 0 < 4 ^ bits := by positivity
    have hi : 0 < 2 ^ bits * (i + 1) := by positivity
    have hj : 0 < 2 ^ bits * (j + 1) := by positivity
    have hrow : 2 ^ (bits + 1) * (i + 1) - 1 = 2 * (2 ^ bits * (i + 1) - 1) + 1 := by
      rw [Nat.pow_succ', Nat.mul_assoc]; omega
    have hcolumn : 2 ^ (bits + 1) * (j + 1) - 1 = 2 * (2 ^ bits * (j + 1) - 1) + 1 := by
      rw [Nat.pow_succ', Nat.mul_assoc]; omega
    have hstep := interleave_two_mul_add bits (2 ^ bits * (i + 1) - 1) (2 ^ bits * (j + 1) - 1)
      true true
    rw [Bool.toNat_true, ih] at hstep
    rw [hrow, hcolumn, hstep, Nat.pow_succ]
    omega

/-! ## Reading a row and a column back -/

theorem deinterleave_interleave (bits row column : Nat) :
    deinterleave bits (interleave bits row column) = (row % 2 ^ bits, column % 2 ^ bits) := by
  induction bits generalizing row column with
  | zero => simp [Nat.mod_one]
  | succ bits ih =>
    have hupper : interleave (bits + 1) row column / 4
        = interleave bits (row / 2) (column / 2) := by rw [interleave_succ]; omega
    have hrow : interleave (bits + 1) row column / 2 % 2 = row % 2 := by
      rw [interleave_succ]; omega
    have hcolumn : interleave (bits + 1) row column % 2 = column % 2 := by
      rw [interleave_succ]; omega
    rw [deinterleave_succ, hupper, ih, hrow, hcolumn, Nat.pow_succ', Nat.mod_mul, Nat.mod_mul,
      Nat.add_comm (row % 2), Nat.add_comm (column % 2)]

theorem interleave_deinterleave (bits key : Nat) :
    interleave bits (deinterleave bits key).1 (deinterleave bits key).2 = key % 4 ^ bits := by
  induction bits generalizing key with
  | zero => simp [Nat.mod_one]
  | succ bits ih =>
    have hr : (2 * (deinterleave bits (key / 4)).1 + key / 2 % 2) / 2
        = (deinterleave bits (key / 4)).1 := by omega
    have hc : (2 * (deinterleave bits (key / 4)).2 + key % 2) / 2
        = (deinterleave bits (key / 4)).2 := by omega
    rw [deinterleave_succ, interleave_succ, hr, hc, ih, Nat.pow_succ', Nat.mod_mul]
    omega

theorem deinterleave_lt (bits key : Nat) :
    (deinterleave bits key).1 < 2 ^ bits ∧ (deinterleave bits key).2 < 2 ^ bits := by
  induction bits generalizing key with
  | zero => simp
  | succ bits ih =>
    obtain ⟨hrow, hcolumn⟩ := ih (key / 4)
    rw [deinterleave_succ, Nat.pow_succ']
    constructor <;> dsimp only <;> omega

/-- **Within `bits` bits a row and a column are pinned by their interleaving.** -/
theorem interleave_inj {bits row column row' column' : Nat} (hrow : row < 2 ^ bits)
    (hcolumn : column < 2 ^ bits) (hrow' : row' < 2 ^ bits) (hcolumn' : column' < 2 ^ bits) :
    interleave bits row column = interleave bits row' column' ↔ row = row' ∧ column = column' := by
  refine ⟨?_, fun ⟨hr, hc⟩ => by rw [hr, hc]⟩
  intro h
  have hback := congrArg (deinterleave bits) h
  rw [deinterleave_interleave, deinterleave_interleave, Nat.mod_eq_of_lt hrow,
    Nat.mod_eq_of_lt hcolumn, Nat.mod_eq_of_lt hrow', Nat.mod_eq_of_lt hcolumn'] at hback
  exact Prod.mk.inj hback

end ZGrid
