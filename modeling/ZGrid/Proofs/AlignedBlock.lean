import Mathlib.Data.Set.Card
import Mathlib.Order.Interval.Finset.Nat
import ZGrid.Extent
import ZGrid.Proofs.Interleave

/-!
# Proofs/AlignedBlock — an aligned square of cells is one run of keys

A **block** of height `h` is a square of `2 ^ h` rows and columns that starts at multiples of its
side.  Its keys are those whose quotient by `4 ^ h` is the interleaving of the place `(i, j)` of
the block among the blocks of its height (`mem_range_block`), so they are one run of `4 ^ h` keys.
The quarters of a block are blocks again, and the four of them cut that run in four:

```
   SW            NW            SE            NE
   4 * m         4 * m + 1     4 * m + 2     4 * m + 3          quotients by 4 ^ (h - 1)
```
-/

namespace ZGrid

namespace Quadrant

/-- The rank of a quarter in the order of the keys. -/
def rank (quadrant : Quadrant) : Nat := 2 * quadrant.isEast.toNat + quadrant.isNorth.toNat

theorem rank_lt (quadrant : Quadrant) : quadrant.rank < 4 := by cases quadrant <;> decide

theorem rank_inj {a b : Quadrant} (h : a.rank = b.rank) : a = b := by
  cases a <;> cases b <;> first | rfl | cases h

theorem exists_rank_eq {n : Nat} (h : n < 4) : ∃ quadrant : Quadrant, quadrant.rank = n := by
  obtain rfl | rfl | rfl | rfl : n = 0 ∨ n = 1 ∨ n = 2 ∨ n = 3 := by omega
  · exact ⟨southWest, rfl⟩
  · exact ⟨northWest, rfl⟩
  · exact ⟨southEast, rfl⟩
  · exact ⟨northEast, rfl⟩

end Quadrant

namespace Extent

/-! ## Blocks -/

/-- An aligned square of `2 ^ height` rows and columns. -/
structure IsBlock (height : Nat) (extent : Extent) : Prop where
  /-- The first row is a multiple of the side. -/
  startRow_dvd : 2 ^ height ∣ extent.startRow
  /-- The first column is a multiple of the side. -/
  startColumn_dvd : 2 ^ height ∣ extent.startColumn
  /-- The rows are as many as the side. -/
  stopRow_eq : extent.stopRow = extent.startRow + 2 ^ height
  /-- The columns are as many as the side. -/
  stopColumn_eq : extent.stopColumn = extent.startColumn + 2 ^ height

/-- The rows and columns are those of a grid of `level` halvings. -/
structure Within (level : Nat) (extent : Extent) : Prop where
  /-- No row lies past the grid. -/
  stopRow_le : extent.stopRow ≤ 2 ^ level
  /-- No column lies past the grid. -/
  stopColumn_le : extent.stopColumn ≤ 2 ^ level

/-- The block at a place among the blocks of its height. -/
def block (height i j : Nat) : Extent where
  startRow := 2 ^ height * i
  stopRow := 2 ^ height * (i + 1)
  startColumn := 2 ^ height * j
  stopColumn := 2 ^ height * (j + 1)

variable {level height i j : Nat}

theorem isBlock_block (height i j : Nat) : (block height i j).IsBlock height where
  startRow_dvd := Nat.dvd_mul_right ..
  startColumn_dvd := Nat.dvd_mul_right ..
  stopRow_eq := Nat.mul_succ ..
  stopColumn_eq := Nat.mul_succ ..

theorem IsBlock.exists_eq_block {extent : Extent} (h : extent.IsBlock height) :
    ∃ i j, extent = block height i j := by
  obtain ⟨startRow, stopRow, startColumn, stopColumn⟩ := extent
  obtain ⟨⟨i, hi⟩, ⟨j, hj⟩, hrow, hcolumn⟩ := h
  dsimp only at hi hj hrow hcolumn
  subst hi hj hrow hcolumn
  exact ⟨i, j, rfl⟩

theorem whole_eq_block (level : Nat) : whole level = block level 0 0 := by simp [whole, block]

/-- A block lies in the grid exactly when its place does. -/
theorem within_block_iff (h : height ≤ level) :
    (block height i j).Within level ↔ i < 2 ^ (level - height) ∧ j < 2 ^ (level - height) := by
  have hside : 2 ^ level = 2 ^ height * 2 ^ (level - height) := by
    rw [← Nat.pow_add, Nat.add_sub_cancel' h]
  have hfits : ∀ n, 2 ^ height * (n + 1) ≤ 2 ^ level ↔ n < 2 ^ (level - height) := by
    intro n
    rw [hside, Nat.mul_le_mul_left_iff (by positivity), Nat.succ_le_iff]
  exact ⟨fun ⟨hrow, hcolumn⟩ => ⟨(hfits i).mp hrow, (hfits j).mp hcolumn⟩,
    fun ⟨hi, hj⟩ => ⟨(hfits i).mpr hi, (hfits j).mpr hj⟩⟩

/-- The cells of a block are those whose row and column have the quotients of its place. -/
theorem holds_block_iff {row column : Nat} :
    (block height i j).Holds row column ↔ row / 2 ^ height = i ∧ column / 2 ^ height = j := by
  have hpos : 0 < 2 ^ height := by positivity
  rw [Nat.div_eq_iff hpos, Nat.div_eq_iff hpos, Holds, block]
  dsimp only
  rw [Nat.mul_succ, Nat.mul_succ, Nat.mul_comm i, Nat.mul_comm j]
  omega

/-- **A quarter of a block is a block**, and its place has one bit more on each axis. -/
theorem quadrant_block (height i j : Nat) (quadrant : Quadrant) :
    (block (height + 1) i j).quadrant quadrant
      = block height (2 * i + quadrant.isEast.toNat) (2 * j + quadrant.isNorth.toNat) := by
  have hhalf : ∀ n, 2 ^ (height + 1) * n + (2 ^ (height + 1) * (n + 1) - 2 ^ (height + 1) * n) / 2
      = 2 ^ height * (2 * n + 1) := by
    intro n
    rw [Nat.mul_succ, Nat.add_sub_cancel_left, Nat.pow_succ, Nat.mul_div_cancel _ two_pos]
    ring
  have hrow : (block (height + 1) i j).middleRow = 2 ^ height * (2 * i + 1) := hhalf i
  have hcolumn : (block (height + 1) i j).middleColumn = 2 ^ height * (2 * j + 1) := hhalf j
  have hstart : ∀ n, 2 ^ (height + 1) * n = 2 ^ height * (2 * n) := fun n => by ring
  have hstop : ∀ n, 2 ^ height * (2 * (n + 1)) = 2 ^ height * (2 * n + 1 + 1) := fun _ => rfl
  cases quadrant <;> rw [Extent.quadrant, hrow, hcolumn] <;>
    simp only [block, hstart, hstop, Quadrant.isEast, Quadrant.isNorth, Bool.toNat_true,
      Bool.toNat_false, Nat.add_zero]

/-- A quarter of a block of the grid is a block of the grid. -/
theorem Within.quadrant (h : (block (height + 1) i j).Within level) (quadrant : Quadrant) :
    ((block (height + 1) i j).quadrant quadrant).Within level := by
  have hhalf : ∀ n (upper : Bool),
      2 ^ height * (2 * n + upper.toNat + 1) ≤ 2 ^ (height + 1) * (n + 1) := by
    intro n upper
    have := upper.toNat_le
    rw [Nat.pow_succ, Nat.mul_assoc]
    exact Nat.mul_le_mul_left _ (by omega)
  rw [quadrant_block]
  exact ⟨(hhalf i _).trans h.stopRow_le, (hhalf j _).trans h.stopColumn_le⟩

/-- The cells of a block of the grid are cells of the grid, and so in the domain of the keys. -/
theorem Within.lt_of_holds {extent : Extent} (h : extent.Within level) {row column : Nat}
    (hcell : extent.Holds row column) : row < 2 ^ (level + 1) ∧ column < 2 ^ (level + 1) := by
  obtain ⟨-, hrow, -, hcolumn⟩ := hcell
  have hdouble := Nat.pow_succ 2 level
  have := h.stopRow_le
  have := h.stopColumn_le
  omega

/-! ## The run of a block -/

section Run

variable (hlevel : level ≤ 31) (hheight : height ≤ level)
include hlevel hheight

theorem toNat_start_block (i j : Nat) : ((block height i j).range level).start.toNat
    = 4 ^ height * interleave (level + 1 - height) i j := by
  have hbits : level + 1 = height + (level + 1 - height) := by omega
  change (cellKey level (2 ^ height * i) (2 ^ height * j)).toNat = _
  rw [toNat_cellKey hlevel, hbits, interleave_add, interleave_first, Nat.add_zero,
    Nat.mul_div_cancel_left _ (by positivity), Nat.mul_div_cancel_left _ (by positivity), ← hbits]

theorem toNat_stop_block (i j : Nat) : ((block height i j).range level).stop.toNat
    = 4 ^ height * interleave (level + 1 - height) i j + (4 ^ height - 1) := by
  have hbits : level + 1 = height + (level + 1 - height) := by omega
  have hpos : 0 < 2 ^ height := by positivity
  have hlast : ∀ n, (2 ^ height * (n + 1) - 1) / 2 ^ height = n := by
    intro n
    rw [Nat.div_eq_iff hpos, Nat.mul_succ, Nat.mul_comm n]
    omega
  change (cellKey level (2 ^ height * (i + 1) - 1) (2 ^ height * (j + 1) - 1)).toNat = _
  rw [toNat_cellKey hlevel, hbits, interleave_add, interleave_last, hlast, hlast, ← hbits]

/-- **The keys of a block are those with its quotient.** -/
theorem mem_range_block (i j : Nat) (key : Key) : key ∈ (block height i j).range level
    ↔ key.toNat / 4 ^ height = interleave (level + 1 - height) i j := by
  have hpos : 0 < 4 ^ height := by positivity
  rw [KeyRange.mem_def, UInt64.le_iff_toNat_le, UInt64.le_iff_toNat_le,
    toNat_start_block hlevel hheight, toNat_stop_block hlevel hheight, Nat.div_eq_iff hpos,
    Nat.mul_comm (4 ^ height)]
  omega

/-- The key of a cell lies in the run of a block of the grid exactly when the block holds it. -/
theorem cellKey_mem_range_block (hwithin : (block height i j).Within level) {row column : Nat}
    (hrow : row < 2 ^ (level + 1)) (hcolumn : column < 2 ^ (level + 1)) :
    cellKey level row column ∈ (block height i j).range level
      ↔ (block height i j).Holds row column := by
  have hbits : level + 1 = height + (level + 1 - height) := by omega
  have hup : 2 ^ (level - height) ≤ 2 ^ (level + 1 - height) :=
    Nat.pow_le_pow_right two_pos (by omega)
  obtain ⟨hi, hj⟩ := (within_block_iff hheight).mp hwithin
  have hquotient : ∀ {n}, n < 2 ^ (level + 1) → n / 2 ^ height < 2 ^ (level + 1 - height) :=
    fun h => by rwa [Nat.div_lt_iff_lt_mul (by positivity), ← Nat.pow_add, Nat.add_comm, ← hbits]
  rw [mem_range_block hlevel hheight, toNat_cellKey hlevel, hbits, interleave_div, ← hbits,
    interleave_inj (hquotient hrow) (hquotient hcolumn) (hi.trans_le hup) (hj.trans_le hup),
    holds_block_iff]

theorem cellKey_mem_of_holds (hwithin : (block height i j).Within level) {row column : Nat}
    (hcell : (block height i j).Holds row column) :
    cellKey level row column ∈ (block height i j).range level := by
  obtain ⟨hrow, hcolumn⟩ := hwithin.lt_of_holds hcell
  exact (cellKey_mem_range_block hlevel hheight hwithin hrow hcolumn).mpr hcell

/-- A key in the run of a block is the key of the cell that it names. -/
theorem cellKey_keyCell {key : Key} (h : key ∈ (block height i j).range level) :
    cellKey level (keyCell level key).1 (keyCell level key).2 = key := by
  have hbits : level + 1 = height + (level + 1 - height) := by omega
  have hlt : key.toNat < 4 ^ (level + 1) := by
    have := interleave_lt (level + 1 - height) i j
    rw [← (mem_range_block hlevel hheight i j key).mp h, Nat.div_lt_iff_lt_mul (by positivity),
      ← Nat.pow_add, Nat.add_comm, ← hbits] at this
    exact this
  rw [← UInt64.toNat_inj, toNat_cellKey hlevel, keyCell, interleave_deinterleave,
    Nat.mod_eq_of_lt hlt]

/-- **The cells of a block and its keys are in bijection.** -/
theorem bijOn_cellKey_block (hwithin : (block height i j).Within level) :
    Set.BijOn (fun cell : Nat × Nat => cellKey level cell.1 cell.2)
      {cell | (block height i j).Holds cell.1 cell.2}
      {key | key ∈ (block height i j).range level} := by
  refine ⟨fun cell h => cellKey_mem_of_holds hlevel hheight hwithin h, ?_, ?_⟩
  · intro cell h cell' h' heq
    obtain ⟨hrow, hcolumn⟩ := hwithin.lt_of_holds h
    obtain ⟨hrow', hcolumn'⟩ := hwithin.lt_of_holds h'
    have hkey := congrArg UInt64.toNat heq
    rw [toNat_cellKey hlevel, toNat_cellKey hlevel,
      interleave_inj hrow hcolumn hrow' hcolumn'] at hkey
    exact Prod.ext hkey.1 hkey.2
  · intro key h
    obtain ⟨hrow, hcolumn⟩ := deinterleave_lt (level + 1) key.toNat
    have hkey := cellKey_keyCell hlevel hheight h
    refine ⟨keyCell level key, ?_, hkey⟩
    exact (cellKey_mem_range_block hlevel hheight hwithin hrow hcolumn).mp (hkey.symm ▸ h)

end Run

/-! ## The run of the whole grid -/

section Whole

variable (hlevel : level ≤ 31)
include hlevel

theorem range_whole : (whole level).range level = ⟨0, .ofNat (4 ^ level - 1)⟩ := by
  have hzero : interleave (level + 1 - level) 0 0 = 0 := interleave_first _ 0 0
  have hstart := toNat_start_block hlevel le_rfl 0 0
  have hstop := toNat_stop_block hlevel le_rfl 0 0
  have hsize : 4 ^ level ≤ 4 ^ 31 := Nat.pow_le_pow_right (by decide) hlevel
  rw [hzero, Nat.mul_zero] at hstart hstop
  rw [whole_eq_block, KeyRange.mk.injEq, ← UInt64.toNat_inj, ← UInt64.toNat_inj, hstart, hstop,
    UInt64.toNat_ofNat_of_lt' (by rw [UInt64.size]; omega), Nat.zero_add]
  exact ⟨rfl, rfl⟩

theorem mem_range_whole (key : Key) : key ∈ (whole level).range level ↔ key.toNat < 4 ^ level := by
  have hzero : interleave (level + 1 - level) 0 0 = 0 := interleave_first _ 0 0
  rw [whole_eq_block, mem_range_block hlevel le_rfl, hzero,
    Nat.div_eq_zero_iff_lt (by positivity)]

end Whole

/-- A block has as many cells as the square of its side. -/
theorem ncard_holds_block (height i j : Nat) :
    {cell : Nat × Nat | (block height i j).Holds cell.1 cell.2}.ncard = 4 ^ height := by
  have hcells : {cell : Nat × Nat | (block height i j).Holds cell.1 cell.2}
      = ↑(Finset.Ico (2 ^ height * i) (2 ^ height * (i + 1))
        ×ˢ Finset.Ico (2 ^ height * j) (2 ^ height * (j + 1))) := by
    ext cell
    simp [Holds, block, and_assoc]
  rw [hcells, Set.ncard_coe_finset, Finset.card_product, Nat.card_Ico, Nat.card_Ico,
    Nat.mul_succ, Nat.mul_succ, Nat.add_sub_cancel_left, Nat.add_sub_cancel_left, ← Nat.mul_pow]

/-! ## The runs of the quarters -/

section Quarters

variable (hlevel : level ≤ 31) (hheight : height < level)
include hlevel hheight

/-- **The keys of a quarter** are those of its rank among the quarters of the block. -/
theorem mem_range_quadrant (i j : Nat) (quadrant : Quadrant) (key : Key) :
    key ∈ ((block (height + 1) i j).quadrant quadrant).range level
      ↔ key.toNat / 4 ^ height = 4 * interleave (level - height) i j + quadrant.rank := by
  have hbits : level + 1 - height = level - height + 1 := by omega
  rw [quadrant_block, mem_range_block hlevel hheight.le, hbits, interleave_two_mul_add,
    Quadrant.rank]

theorem mem_range_block_succ (i j : Nat) (key : Key) :
    key ∈ (block (height + 1) i j).range level
      ↔ key.toNat / 4 ^ height / 4 = interleave (level - height) i j := by
  have hbits : level + 1 - (height + 1) = level - height := by omega
  rw [mem_range_block hlevel hheight, hbits, Nat.pow_succ, Nat.div_div_eq_div_mul]

/-- A key of a quarter is a key of the block. -/
theorem range_quadrant_subset {quadrant : Quadrant} {key : Key}
    (h : key ∈ ((block (height + 1) i j).quadrant quadrant).range level) :
    key ∈ (block (height + 1) i j).range level := by
  have := quadrant.rank_lt
  rw [mem_range_quadrant hlevel hheight] at h
  rw [mem_range_block_succ hlevel hheight]
  omega

/-- No key lies in two quarters. -/
theorem quadrant_eq_of_mem_range {a b : Quadrant} {key : Key}
    (ha : key ∈ ((block (height + 1) i j).quadrant a).range level)
    (hb : key ∈ ((block (height + 1) i j).quadrant b).range level) : a = b := by
  rw [mem_range_quadrant hlevel hheight] at ha hb
  exact Quadrant.rank_inj (by omega)

/-- Every key of the block lies in a quarter. -/
theorem exists_mem_range_quadrant {key : Key} (h : key ∈ (block (height + 1) i j).range level) :
    ∃ quadrant, key ∈ ((block (height + 1) i j).quadrant quadrant).range level := by
  rw [mem_range_block_succ hlevel hheight] at h
  obtain ⟨quadrant, hrank⟩ :=
    Quadrant.exists_rank_eq (Nat.mod_lt (key.toNat / 4 ^ height) (by decide : 0 < 4))
  refine ⟨quadrant, ?_⟩
  rw [mem_range_quadrant hlevel hheight]
  omega

theorem toNat_start_quadrant (i j : Nat) (quadrant : Quadrant) :
    (((block (height + 1) i j).quadrant quadrant).range level).start.toNat
      = 4 ^ height * (4 * interleave (level - height) i j + quadrant.rank) := by
  have hbits : level + 1 - height = level - height + 1 := by omega
  rw [quadrant_block, toNat_start_block hlevel hheight.le, hbits, interleave_two_mul_add,
    Quadrant.rank]

theorem toNat_stop_quadrant (i j : Nat) (quadrant : Quadrant) :
    (((block (height + 1) i j).quadrant quadrant).range level).stop.toNat
      = 4 ^ height * (4 * interleave (level - height) i j + quadrant.rank) + (4 ^ height - 1) := by
  have hbits : level + 1 - height = level - height + 1 := by omega
  rw [quadrant_block, toNat_stop_block hlevel hheight.le, hbits, interleave_two_mul_add,
    Quadrant.rank]

/-- The run of a quarter ends right before the run of the quarter of the next rank. -/
theorem stop_quadrant_succ {former next : Quadrant} (h : next.rank = former.rank + 1) :
    (((block (height + 1) i j).quadrant former).range level).stop.toNat + 1
      = (((block (height + 1) i j).quadrant next).range level).start.toNat := by
  have hpos : 0 < 4 ^ height := by positivity
  rw [toNat_stop_quadrant hlevel hheight, toNat_start_quadrant hlevel hheight, h, ← Nat.add_assoc,
    Nat.mul_succ (4 ^ height)]
  omega

/-- The first run begins where the block does… -/
theorem start_southWest (i j : Nat) :
    (((block (height + 1) i j).quadrant .southWest).range level).start
      = ((block (height + 1) i j).range level).start := by
  have hbits : level + 1 - (height + 1) = level - height := by omega
  rw [← UInt64.toNat_inj, toNat_start_quadrant hlevel hheight, toNat_start_block hlevel hheight,
    hbits, Nat.pow_succ, Nat.mul_assoc]
  rfl

/-- …and the last one ends where the block does. -/
theorem stop_northEast (i j : Nat) :
    (((block (height + 1) i j).quadrant .northEast).range level).stop
      = ((block (height + 1) i j).range level).stop := by
  have hbits : level + 1 - (height + 1) = level - height := by omega
  have hpos : 0 < 4 ^ height := by positivity
  have hrank : Quadrant.northEast.rank = 3 := rfl
  rw [← UInt64.toNat_inj, toNat_stop_quadrant hlevel hheight, toNat_stop_block hlevel hheight,
    hbits, hrank, Nat.pow_succ, Nat.mul_add, Nat.mul_assoc]
  omega

end Quarters

/-! ## The law of a block -/

/-- **An aligned block is one run of keys, and its quarters cut the run in four.**  The cells of a
block of the grid are in bijection with the keys from that of its first cell to that of its last
one.  The quarters of the block are blocks of half the side; each key of the run belongs to one of
them, and in the order of the ranks their runs follow one another from end to end. -/
theorem IsBlock.run_of_cells {extent : Extent} (hlevel : level ≤ 31) (hheight : height ≤ level)
    (hblock : extent.IsBlock height) (hwithin : extent.Within level) :
    let first := cellKey level extent.startRow extent.startColumn
    let last :=
      cellKey level (extent.startRow + 2 ^ height - 1) (extent.startColumn + 2 ^ height - 1)
    extent.range level = ⟨first, last⟩
      ∧ Set.BijOn (fun cell : Nat × Nat => cellKey level cell.1 cell.2)
          {cell | extent.Holds cell.1 cell.2} {key | first ≤ key ∧ key ≤ last}
      ∧ {key | first ≤ key ∧ key ≤ last}.ncard = 4 ^ height
      ∧ (1 ≤ height →
          (∀ quadrant, (extent.quadrant quadrant).IsBlock (height - 1))
          ∧ (∀ quadrant, ∀ key ∈ (extent.quadrant quadrant).range level, key ∈ extent.range level)
          ∧ (∀ key ∈ extent.range level,
              ∃! quadrant, key ∈ (extent.quadrant quadrant).range level)
          ∧ ((extent.quadrant .southWest).range level).start = (extent.range level).start
          ∧ Quadrant.ascending.IsChain (fun former next =>
              ((extent.quadrant former).range level).stop.toNat + 1
                = ((extent.quadrant next).range level).start.toNat)
          ∧ ((extent.quadrant .northEast).range level).stop = (extent.range level).stop) := by
  intro first last
  have hrange : extent.range level = ⟨first, last⟩ := by
    rw [range, hblock.stopRow_eq, hblock.stopColumn_eq]
  have hkeys : {key | key ∈ extent.range level} = {key | first ≤ key ∧ key ≤ last} := by
    rw [hrange]
    rfl
  obtain ⟨i, j, rfl⟩ := hblock.exists_eq_block
  have hbij := bijOn_cellKey_block hlevel hheight hwithin
  rw [hkeys] at hbij
  refine ⟨hrange, hbij, ?_, ?_⟩
  · rw [← hbij.image_eq, hbij.injOn.ncard_image, ncard_holds_block]
  · intro hsplit
    obtain ⟨height, rfl⟩ : ∃ half, height = half + 1 := ⟨height - 1, by omega⟩
    refine ⟨?_, fun _ _ => range_quadrant_subset hlevel hheight, ?_,
      start_southWest hlevel hheight i j, ?_, stop_northEast hlevel hheight i j⟩
    · intro quadrant
      rw [quadrant_block]
      exact isBlock_block ..
    · intro key h
      obtain ⟨quadrant, hquadrant⟩ := exists_mem_range_quadrant hlevel hheight h
      exact ⟨quadrant, hquadrant, fun _ hother =>
        quadrant_eq_of_mem_range hlevel hheight hother hquadrant⟩
    · simp only [Quadrant.ascending, List.isChain_cons_cons, List.isChain_singleton, and_true]
      exact ⟨stop_quadrant_succ hlevel hheight rfl, stop_quadrant_succ hlevel hheight rfl,
        stop_quadrant_succ hlevel hheight rfl⟩

/-- The block of rows 4 to 7 and columns 2 ^ 31 - 4 to 2 ^ 31 - 1 in the largest grid. -/
theorem run_of_cells_largest :
    (⟨4, 8, 2147483644, 2147483648⟩ : Extent).IsBlock 2
      ∧ (⟨4, 8, 2147483644, 2147483648⟩ : Extent).Within 31
      ∧ {key | cellKey 31 4 2147483644 ≤ key ∧ key ≤ cellKey 31 7 2147483647}.ncard = 16 := by
  have hblock : (⟨4, 8, 2147483644, 2147483648⟩ : Extent).IsBlock 2 :=
    ⟨by decide, by decide, by decide, by decide⟩
  have hwithin : (⟨4, 8, 2147483644, 2147483648⟩ : Extent).Within 31 := ⟨by decide, by decide⟩
  exact ⟨hblock, hwithin, (IsBlock.run_of_cells (by decide) (by decide) hblock hwithin).2.2.1⟩

end Extent

end ZGrid
