import ZGrid.Extent
import ZGrid.Proofs.Interleave

/-!
# Proofs/KeyOrder — keys ascend with the rows and with the columns

What a row puts into an interleaving and what a column puts into it do not meet, so the two add up:

```
   r₂ c₂ r₁ c₁ r₀ c₀      =      2 · (r₂ 0 r₁ 0 r₀)  +  (c₂ 0 c₁ 0 c₀)
```

Each of the two ascends with its own number (`interleave_zero_lt`), and no bit of one cell is ever
compared with a bit of another.  A block of cells, aligned or not, then has its least key in its
first cell and its greatest key in its last one:

```
   column   2  │  4   6  12            rows 0 to 2, columns 0 to 2:  the keys from 0 to 12,
            1  │  1   3   9            5, 7, 10 and 11 among them of cells outside
            0  │  0   2   8
```
-/

namespace ZGrid

/-! ## The two axes apart -/

/-- **An interleaving is a sum over the two axes.** -/
theorem interleave_eq_add (bits row column : Nat) :
    interleave bits row column = 2 * interleave bits 0 row + interleave bits 0 column := by
  induction bits generalizing row column with
  | zero => rfl
  | succ bits ih =>
    rw [interleave_succ, interleave_succ, interleave_succ, ih, Nat.zero_div, Nat.zero_mod]
    omega

/-- **The spread bits of a number ascend with the number.**  Either the halves ascend already, and
then no lowest bit can make up for it, or they agree and the lowest bits decide. -/
theorem interleave_zero_lt {bits n n' : Nat} (h : n < n') (hbits : n' < 2 ^ bits) :
    interleave bits 0 n < interleave bits 0 n' := by
  induction bits generalizing n n' with
  | zero => omega
  | succ bits ih =>
    rw [Nat.pow_succ] at hbits
    rw [interleave_succ, interleave_succ, Nat.zero_div, Nat.zero_mod]
    obtain hhalf | hhalf : n / 2 < n' / 2 ∨ n / 2 = n' / 2 := by omega
    · have := ih hhalf (by omega)
      omega
    · rw [hhalf]
      omega

theorem interleave_zero_le {bits n n' : Nat} (h : n ≤ n') (hbits : n' < 2 ^ bits) :
    interleave bits 0 n ≤ interleave bits 0 n' := by
  obtain heq | hlt := h.eq_or_lt
  · rw [heq]
  · exact (interleave_zero_lt hlt hbits).le

/-! ## The order of the keys -/

section Order

variable {level row row' column column' : Nat} (hlevel : level ≤ 31) (hrow : row ≤ row')
  (hrow' : row' < 2 ^ (level + 1)) (hcolumn : column ≤ column')
  (hcolumn' : column' < 2 ^ (level + 1))
include hlevel hrow hrow' hcolumn hcolumn'

/-- **Keys ascend with the rows and with the columns.** -/
theorem cellKey_le : cellKey level row column ≤ cellKey level row' column' := by
  have hrows := interleave_zero_le hrow hrow'
  have hcolumns := interleave_zero_le hcolumn hcolumn'
  rw [UInt64.le_iff_toNat_le, toNat_cellKey hlevel, toNat_cellKey hlevel, interleave_eq_add,
    interleave_eq_add _ row']
  omega

theorem cellKey_lt (h : row < row' ∨ column < column') :
    cellKey level row column < cellKey level row' column' := by
  have hrows := interleave_zero_le hrow hrow'
  have hcolumns := interleave_zero_le hcolumn hcolumn'
  rw [UInt64.lt_iff_toNat_lt, toNat_cellKey hlevel, toNat_cellKey hlevel, interleave_eq_add,
    interleave_eq_add _ row']
  obtain hlt | hlt := h
  · have := interleave_zero_lt hlt hrow'
    omega
  · have := interleave_zero_lt hlt hcolumn'
    omega

end Order

namespace Extent

/-- **The range of a block brackets it.**  Keys ascend with the rows and with the columns, so a
block with a cell, aligned or not, has a range with its ends in order that holds the keys of all its
cells, and no smaller range does. -/
theorem brackets_cells {level : Nat} (hlevel : level ≤ 31) :
    (∀ row row' column column', row ≤ row' → row' < 2 ^ (level + 1) →
      column ≤ column' → column' < 2 ^ (level + 1) →
        cellKey level row column ≤ cellKey level row' column'
          ∧ (row < row' ∨ column < column' →
              cellKey level row column < cellKey level row' column'))
      ∧ ∀ extent : Extent, extent.startRow < extent.stopRow → extent.stopRow ≤ 2 ^ (level + 1) →
        extent.startColumn < extent.stopColumn → extent.stopColumn ≤ 2 ^ (level + 1) →
          (extent.range level).Ordered
            ∧ (∀ row column, extent.Holds row column →
                cellKey level row column ∈ extent.range level)
            ∧ ∀ range : KeyRange, (∀ row column, extent.Holds row column →
                cellKey level row column ∈ range) →
                  range.start ≤ (extent.range level).start
                    ∧ (extent.range level).stop ≤ range.stop := by
  refine ⟨fun row row' column column' hrow hrow' hcolumn hcolumn' =>
    ⟨cellKey_le hlevel hrow hrow' hcolumn hcolumn',
      cellKey_lt hlevel hrow hrow' hcolumn hcolumn'⟩, ?_⟩
  intro extent hrows hrows' hcolumns hcolumns'
  have hfirst : extent.Holds extent.startRow extent.startColumn :=
    ⟨le_rfl, hrows, le_rfl, hcolumns⟩
  have hlast : extent.Holds (extent.stopRow - 1) (extent.stopColumn - 1) := by
    refine ⟨?_, ?_, ?_, ?_⟩ <;> omega
  have hmem : ∀ row column, extent.Holds row column →
      cellKey level row column ∈ extent.range level := by
    rintro row column ⟨hrow, hrow', hcolumn, hcolumn'⟩
    exact ⟨cellKey_le hlevel hrow (by omega) hcolumn (by omega),
      cellKey_le hlevel (by omega) (by omega) (by omega) (by omega)⟩
  exact ⟨(hmem _ _ hfirst).2, hmem, fun range hrange =>
    ⟨(hrange _ _ hfirst).1, (hrange _ _ hlast).2⟩⟩

/-- Three columns of the largest grid and of what lies past it, but for the first three rows. -/
theorem brackets_cells_unaligned : 31 ≤ 31
    ∧ ((⟨3, 4294967296, 5, 8⟩ : Extent).range 31).Ordered
    ∧ cellKey 31 2147483648 6 ∈ (⟨3, 4294967296, 5, 8⟩ : Extent).range 31
    ∧ cellKey 31 3 6 < cellKey 31 2147483648 6 := by
  obtain ⟨hascend, hbrackets⟩ := brackets_cells (le_refl 31)
  obtain ⟨hordered, hmem, -⟩ := hbrackets ⟨3, 4294967296, 5, 8⟩ (by decide) (by decide) (by decide)
    (by decide)
  exact ⟨le_rfl, hordered, hmem _ _ (by decide),
    (hascend 3 2147483648 6 6 (by decide) (by decide) le_rfl (by decide)).2 (.inl (by decide))⟩

end Extent

end ZGrid
