import Mathlib.Data.Nat.Bitwise
import Mathlib.Data.Set.Function
import Mathlib.Data.Set.Prod
import Mathlib.Order.Interval.Set.Defs
import ZGrid.Proofs.PointKey

/-!
# Proofs/CellCodec — keys and cells read as one another

The bits of a key are those of the row and of the column, and there are no others
(`testBit_interleave`).  Reading a cell back from its key therefore gives the bits that the key has,
and so does making a key of the cell that it names:

```
   row column   ──cellKey──▸  key     ──keyCell──▸  row % 2 ^ (level + 1)   column % 2 ^ (level + 1)
   key          ──keyCell──▸  cell    ──cellKey──▸  key % 4 ^ (level + 1)
```

On the cells and the keys of as many bits the two are inverse to each other, for any number of bits
that the level has: for all of them as for those of the grid.
-/

namespace ZGrid

/-! ## Bits -/

/-- **The bits of an interleaving**, the odd ones those of the row, the even ones those of the
column. -/
theorem testBit_interleave (bits row column i : Nat) :
    (interleave bits row column).testBit (2 * i + 1) = (decide (i < bits) && row.testBit i)
      ∧ (interleave bits row column).testBit (2 * i)
        = (decide (i < bits) && column.testBit i) := by
  induction bits generalizing row column i with
  | zero => simp
  | succ bits ih =>
    cases i with
    | zero =>
      have hrow : interleave (bits + 1) row column / 2 % 2 = row % 2 := by
        rw [interleave_succ]; omega
      have hcolumn : interleave (bits + 1) row column % 2 = column % 2 := by
        rw [interleave_succ]; omega
      constructor
      · rw [Nat.testBit_succ, Nat.testBit_zero, hrow, Nat.testBit_zero]
        simp
      · rw [Nat.mul_zero, Nat.testBit_zero, hcolumn, Nat.testBit_zero]
        simp
    | succ i =>
      have hupper : interleave (bits + 1) row column / 2 / 2
          = interleave bits (row / 2) (column / 2) := by rw [interleave_succ]; omega
      obtain ⟨hrow, hcolumn⟩ := ih (row / 2) (column / 2) i
      constructor
      · rw [Nat.mul_succ, Nat.testBit_succ, Nat.testBit_succ, hupper, hrow, Nat.testBit_succ]
        simp
      · rw [Nat.mul_succ, Nat.testBit_succ, Nat.testBit_succ, hupper, hcolumn, Nat.testBit_succ]
        simp

/-! ## Squares at the origin -/

/-- The cells of a square at the origin. -/
def cellsBelow (bits : Nat) : Set (Nat × Nat) := Set.Iio (2 ^ bits) ×ˢ Set.Iio (2 ^ bits)

/-- The first keys, as many as such a square has cells. -/
def keysBelow (bits : Nat) : Set Key := {key | key.toNat < 4 ^ bits}

theorem mem_cellsBelow {bits : Nat} {cell : Nat × Nat} :
    cell ∈ cellsBelow bits ↔ cell.1 < 2 ^ bits ∧ cell.2 < 2 ^ bits := Iff.rfl

theorem mem_keysBelow {bits : Nat} {key : Key} :
    key ∈ keysBelow bits ↔ key.toNat < 4 ^ bits := Iff.rfl

theorem cellsBelow_mono {bits more : Nat} (h : bits ≤ more) :
    cellsBelow bits ⊆ cellsBelow more := fun _ hcell =>
  ⟨hcell.1.trans_le (Nat.pow_le_pow_right two_pos h),
    hcell.2.trans_le (Nat.pow_le_pow_right two_pos h)⟩

theorem keysBelow_mono {bits more : Nat} (h : bits ≤ more) : keysBelow bits ⊆ keysBelow more :=
  fun _ hkey => hkey.trans_le (Nat.pow_le_pow_right (by decide) h)

/-- **Few bits of a row and of a column make few bits of an interleaving**, however many more are
interleaved. -/
theorem interleave_lt_iff {low high row column : Nat} (hrow : row < 2 ^ (low + high))
    (hcolumn : column < 2 ^ (low + high)) :
    interleave (low + high) row column < 4 ^ low ↔ row < 2 ^ low ∧ column < 2 ^ low := by
  have hpos : 0 < 2 ^ high := Nat.two_pow_pos high
  have hzero : interleave high 0 0 = 0 := interleave_first high 0 0
  have hquotient : ∀ {n}, n < 2 ^ (low + high) → n / 2 ^ low < 2 ^ high := fun h => by
    rwa [Nat.div_lt_iff_lt_mul (Nat.two_pow_pos low), Nat.mul_comm, ← Nat.pow_add]
  calc interleave (low + high) row column < 4 ^ low
      ↔ interleave (low + high) row column / 4 ^ low = 0 :=
        (Nat.div_eq_zero_iff_lt (Nat.pow_pos (by decide))).symm
    _ ↔ interleave high (row / 2 ^ low) (column / 2 ^ low) = interleave high 0 0 := by
        rw [interleave_div, hzero]
    _ ↔ row / 2 ^ low = 0 ∧ column / 2 ^ low = 0 :=
        interleave_inj (hquotient hrow) (hquotient hcolumn) hpos hpos
    _ ↔ row < 2 ^ low ∧ column < 2 ^ low := by
        rw [Nat.div_eq_zero_iff_lt (Nat.two_pow_pos low),
          Nat.div_eq_zero_iff_lt (Nat.two_pow_pos low)]

section Codec

variable {level bits : Nat} (hlevel : level ≤ 31)
include hlevel

/-! ## There and back -/

/-- A cell is read back up to the bits that the key has. -/
theorem keyCell_cellKey_mod (row column : Nat) : keyCell level (cellKey level row column)
    = (row % 2 ^ (level + 1), column % 2 ^ (level + 1)) := by
  rw [keyCell, toNat_cellKey hlevel, deinterleave_interleave]

/-- The cell of a key has the low bits of the key. -/
theorem toNat_cellKey_keyCell (key : Key) :
    (cellKey level (keyCell level key).1 (keyCell level key).2).toNat
      = key.toNat % 4 ^ (level + 1) := by
  rw [toNat_cellKey hlevel, keyCell, interleave_deinterleave]

/-- A cell lies in a square at the origin when its key is one of as many first keys. -/
theorem cellKey_mem_keysBelow_iff (hbits : bits ≤ level + 1) {cell : Nat × Nat}
    (hcell : cell ∈ cellsBelow (level + 1)) :
    cellKey level cell.1 cell.2 ∈ keysBelow bits ↔ cell ∈ cellsBelow bits := by
  obtain ⟨high, hhigh⟩ := Nat.exists_eq_add_of_le hbits
  obtain ⟨hrow, hcolumn⟩ := mem_cellsBelow.mp hcell
  rw [hhigh] at hrow hcolumn
  rw [mem_keysBelow, toNat_cellKey hlevel, hhigh, interleave_lt_iff hrow hcolumn, mem_cellsBelow]

/-- **Cells and keys of as many bits are inverse to each other.** -/
theorem invOn_keyCell_cellKey (hbits : bits ≤ level + 1) :
    Set.InvOn (keyCell level) (fun cell : Nat × Nat => cellKey level cell.1 cell.2)
      (cellsBelow bits) (keysBelow bits) := by
  constructor
  · intro cell hcell
    obtain ⟨hrow, hcolumn⟩ := mem_cellsBelow.mp (cellsBelow_mono hbits hcell)
    exact keyCell_cellKey hlevel hrow hcolumn
  · intro key hkey
    have hlt := mem_keysBelow.mp (keysBelow_mono hbits hkey)
    exact UInt64.toNat_inj.mp ((toNat_cellKey_keyCell hlevel key).trans (Nat.mod_eq_of_lt hlt))

theorem mapsTo_cellKey (hbits : bits ≤ level + 1) :
    Set.MapsTo (fun cell : Nat × Nat => cellKey level cell.1 cell.2)
      (cellsBelow bits) (keysBelow bits) := fun _ hcell =>
  (cellKey_mem_keysBelow_iff hlevel hbits (cellsBelow_mono hbits hcell)).mpr hcell

theorem mapsTo_keyCell (hbits : bits ≤ level + 1) :
    Set.MapsTo (keyCell level) (keysBelow bits) (cellsBelow bits) := by
  intro key hkey
  have hback : cellKey level (keyCell level key).1 (keyCell level key).2 = key :=
    (invOn_keyCell_cellKey hlevel hbits).2 hkey
  have hcell : keyCell level key ∈ cellsBelow (level + 1) := deinterleave_lt (level + 1) key.toNat
  rwa [← cellKey_mem_keysBelow_iff hlevel hbits hcell, hback]

/-- **The codec of cells and keys.**  A key has the bits of the row on its odd places and those of
the column on its even ones, as many of each as the level tells, and no other bit.  Each way there
and back keeps just these bits; so on the cells and the keys of `bits` bits the two ways are
bijections that are inverse to each other, for all `level + 1` bits and for any smaller number, such
as the `level` bits of the cells of the grid. -/
theorem codec_of_level :
    (∀ row column i : Nat,
        (cellKey level row column).toNat.testBit (2 * i + 1) = (decide (i ≤ level) && row.testBit i)
          ∧ (cellKey level row column).toNat.testBit (2 * i)
            = (decide (i ≤ level) && column.testBit i))
      ∧ (∀ row column : Nat, keyCell level (cellKey level row column)
          = (row % 2 ^ (level + 1), column % 2 ^ (level + 1)))
      ∧ (∀ key : Key, (cellKey level (keyCell level key).1 (keyCell level key).2).toNat
          = key.toNat % 4 ^ (level + 1))
      ∧ ∀ bits ≤ level + 1,
        Set.InvOn (keyCell level) (fun cell : Nat × Nat => cellKey level cell.1 cell.2)
            (cellsBelow bits) (keysBelow bits)
          ∧ Set.BijOn (fun cell : Nat × Nat => cellKey level cell.1 cell.2)
            (cellsBelow bits) (keysBelow bits)
          ∧ Set.BijOn (keyCell level) (keysBelow bits) (cellsBelow bits) := by
  refine ⟨fun row column i => ?_, keyCell_cellKey_mod hlevel, toNat_cellKey_keyCell hlevel,
    fun bits hbits => ?_⟩
  · rw [toNat_cellKey hlevel]
    simpa only [Nat.lt_succ_iff] using testBit_interleave (level + 1) row column i
  · have hinverse := invOn_keyCell_cellKey hlevel hbits
    have hkeys := mapsTo_cellKey hlevel hbits
    have hcells := mapsTo_keyCell hlevel hbits
    exact ⟨hinverse, hinverse.bijOn hkeys hcells, hinverse.symm.bijOn hcells hkeys⟩

end Codec

/-- At the last level a key has all its 64 bits. -/
theorem codec_of_level_last : 31 ≤ 31 ∧ (cellKey 31 (2 ^ 32 + 1) (2 ^ 31)).toNat.testBit 62 = true
    ∧ keyCell 31 (cellKey 31 (2 ^ 32 + 1) (2 ^ 31)) = (1, 2 ^ 31)
    ∧ Set.BijOn (keyCell 31) (keysBelow 32) (cellsBelow 32) := by
  obtain ⟨hbits, hback, -, hinverse⟩ := codec_of_level (le_refl 31)
  refine ⟨le_rfl, ?_, ?_, (hinverse 32 le_rfl).2.2⟩
  · exact ((hbits (2 ^ 32 + 1) (2 ^ 31) 31).2).trans (by decide +kernel)
  · exact (hback (2 ^ 32 + 1) (2 ^ 31)).trans (by decide)

end ZGrid
