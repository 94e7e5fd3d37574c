import ZGrid.Proofs.AlignedBlock
import ZGrid.Proofs.MergedRanges

/-!
# Proofs/BlockPath — the block at the end of a path of quarters

Going down a path halves the side of a block at every step and puts one bit more behind its place
on each axis.  So a path of length `n` leads from a block of height `h` to one of height `h - n`,
and the bits of a row and a column are a path to any block of the grid:

```
   (i, j)  ──NE──▸  (2i + 1, 2j + 1)  ──SE──▸  (4i + 3, 4j + 2)
```
-/

namespace ZGrid.Extent

variable {level height i j : Nat}

/-- A block has a key. -/
theorem start_mem_range_block (hlevel : level ≤ 31) (hheight : height ≤ level) (i j : Nat) :
    ((block height i j).range level).start ∈ (block height i j).range level := by
  rw [KeyRange.mem_iff_toNat, toNat_start_block hlevel hheight, toNat_stop_block hlevel hheight]
  omega

/-! ## Going down -/

@[simp] theorem follow_append (extent : Extent) (front back : List Quadrant) :
    extent.follow (front ++ back) = (extent.follow front).follow back := List.foldl_append

/-- A path through a block leads to a block, and its place continues the place of the first. -/
theorem exists_follow_block (path : List Quadrant) (hpath : path.length ≤ height) (i j : Nat) :
    ∃ i' j', (block height i j).follow path = block (height - path.length) i' j'
      ∧ i' / 2 ^ path.length = i ∧ j' / 2 ^ path.length = j := by
  induction path generalizing height i j with
  | nil => exact ⟨i, j, rfl, by simp, by simp⟩
  | cons quadrant path ih =>
    obtain ⟨height, rfl⟩ : ∃ half, height = half + 1 := ⟨height - 1, by simp at hpath; omega⟩
    obtain ⟨i', j', heq, hi, hj⟩ := ih (Nat.le_of_succ_le_succ hpath)
      (2 * i + quadrant.isEast.toNat) (2 * j + quadrant.isNorth.toNat)
    have heast := quadrant.isEast.toNat_lt
    have hnorth := quadrant.isNorth.toNat_lt
    refine ⟨i', j', ?_, ?_, ?_⟩
    · rw [follow_cons, quadrant_block, heq, List.length_cons, Nat.add_sub_add_right]
    · rw [List.length_cons, Nat.pow_succ, ← Nat.div_div_eq_div_mul, hi]
      omega
    · rw [List.length_cons, Nat.pow_succ, ← Nat.div_div_eq_div_mul, hj]
      omega

/-- The blocks of a path lie one in another. -/
theorem range_follow_subset (hlevel : level ≤ 31) (hheight : height ≤ level)
    {path : List Quadrant} (hpath : path.length ≤ height) {key : Key}
    (h : key ∈ ((block height i j).follow path).range level) :
    key ∈ (block height i j).range level := by
  induction path generalizing height i j with
  | nil => exact h
  | cons quadrant path ih =>
    obtain ⟨height, rfl⟩ : ∃ half, height = half + 1 := ⟨height - 1, by simp at hpath; omega⟩
    rw [follow_cons, quadrant_block] at h
    have hquadrant := ih (by omega) (Nat.le_of_succ_le_succ hpath) h
    rw [← quadrant_block] at hquadrant
    exact range_quadrant_subset hlevel hheight hquadrant

/-- A cell of the block at the end of a path is a cell of the block at its beginning. -/
theorem holds_of_holds_follow {path : List Quadrant} (hpath : path.length ≤ height)
    {row column : Nat} (h : ((block height i j).follow path).Holds row column) :
    (block height i j).Holds row column := by
  obtain ⟨i', j', heq, rfl, rfl⟩ := exists_follow_block path hpath i j
  have hside : 2 ^ height = 2 ^ (height - path.length) * 2 ^ path.length := by
    rw [← Nat.pow_add, Nat.sub_add_cancel hpath]
  rw [heq, holds_block_iff] at h
  obtain ⟨rfl, rfl⟩ := h
  rw [holds_block_iff, hside, Nat.div_div_eq_div_mul, Nat.div_div_eq_div_mul]
  exact ⟨rfl, rfl⟩

/-! ## The bits of a place as a path -/

/-- **The path by the bits of a row and a column** ends at the block whose place has these bits
behind the place of the first block. -/
theorem follow_path (depth height i j row column : Nat) :
    (block (depth + height) i j).follow (Quadrant.path depth row column)
      = block height (2 ^ depth * i + row % 2 ^ depth) (2 ^ depth * j + column % 2 ^ depth) := by
  induction depth generalizing i j with
  | zero => simp [Quadrant.path, Nat.mod_one]
  | succ depth ih =>
    have hbit : ∀ n k, 2 ^ depth * (2 * k + (n.testBit depth).toNat) + n % 2 ^ depth
        = 2 ^ (depth + 1) * k + n % 2 ^ (depth + 1) := by
      intro n k
      rw [Nat.mod_pow_succ, Nat.toNat_testBit]
      ring
    rw [Quadrant.path, follow_cons, Nat.add_right_comm, quadrant_block, ih,
      Quadrant.isEast_ofHalves, Quadrant.isNorth_ofHalves, hbit, hbit]

/-- The quarter of a block that holds a cell is read off one bit of its row and its column. -/
theorem holds_quadrant {row column : Nat} (h : (block (height + 1) i j).Holds row column) :
    ((block (height + 1) i j).quadrant
      (.ofHalves (row.testBit height) (column.testBit height))).Holds row column := by
  have hbit : ∀ n, n / 2 ^ height = 2 * (n / 2 ^ (height + 1)) + (n.testBit height).toNat := by
    intro n
    rw [Nat.toNat_testBit, Nat.pow_succ, ← Nat.div_div_eq_div_mul]
    omega
  rw [holds_block_iff] at h
  rw [quadrant_block, holds_block_iff, Quadrant.isEast_ofHalves, Quadrant.isNorth_ofHalves, hbit,
    hbit column, h.1, h.2]
  exact ⟨rfl, rfl⟩

/-- The path of a cell ends at the cell. -/
theorem follow_path_whole {row column : Nat} (hrow : row < 2 ^ level)
    (hcolumn : column < 2 ^ level) : (whole level).follow (Quadrant.path level row column)
      = ⟨row, row + 1, column, column + 1⟩ := by
  have hfollow := follow_path level 0 0 0 row column
  rw [Nat.add_zero, Nat.mod_eq_of_lt hrow, Nat.mod_eq_of_lt hcolumn] at hfollow
  rw [whole_eq_block, hfollow]
  simp [block]

/-- Every block of the grid lies at the end of a path. -/
theorem IsBlock.exists_path {extent : Extent} (hblock : extent.IsBlock height)
    (hwithin : extent.Within level) : height ≤ level ∧ ∃ path : List Quadrant,
      path.length = level - height ∧ (whole level).follow path = extent := by
  have hheight : height ≤ level := by
    refine (Nat.pow_le_pow_iff_right (by decide : 1 < 2)).mp (le_trans ?_ hwithin.stopRow_le)
    rw [hblock.stopRow_eq]
    exact Nat.le_add_left ..
  obtain ⟨i, j, rfl⟩ := hblock.exists_eq_block
  obtain ⟨hi, hj⟩ := (within_block_iff hheight).mp hwithin
  refine ⟨hheight, Quadrant.path (level - height) i j, Quadrant.length_path .., ?_⟩
  have hfollow := follow_path (level - height) height 0 0 i j
  rw [Nat.sub_add_cancel hheight, Nat.mul_zero, Nat.zero_add, Nat.zero_add, Nat.mod_eq_of_lt hi,
    Nat.mod_eq_of_lt hj] at hfollow
  rw [whole_eq_block, hfollow]

/-- …and every path as long as the grid is deep leads to a block of the grid. -/
theorem exists_follow_whole {path : List Quadrant} (hpath : path.length ≤ level) :
    ∃ i j, (whole level).follow path = block (level - path.length) i j
      ∧ (block (level - path.length) i j).Within level := by
  obtain ⟨i, j, heq, hi, hj⟩ := exists_follow_block path hpath 0 0
  refine ⟨i, j, by rw [whole_eq_block, heq], ?_⟩
  rw [within_block_iff (Nat.sub_le ..), Nat.sub_sub_self hpath]
  exact ⟨Nat.lt_of_div_eq_zero (by positivity) hi, Nat.lt_of_div_eq_zero (by positivity) hj⟩

end ZGrid.Extent
