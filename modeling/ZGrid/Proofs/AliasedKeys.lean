import ZGrid.GridIndex
import ZGrid.Proofs.CoverRanges
import ZGrid.Proofs.PointKey
import ZGrid.Proofs.TreeRequest

/-!
# Proofs/AliasedKeys — no key of another cell without a warning

```
   row      0 ──── grid ──── 2 ^ L ──── past it ──── 2 ^ (L + 1) ──── aliased ────▸
   key      of a cell of the grid │ of that cell alone  │ of a cell before it as well
                                                        │ a warning
```

A point past the grid but before the limit has a key that no cell of the grid has, and no query
answers with it.  Past the limit a bit is lost, and the log says so: a key stands for two cells only
where there is a warning (`no_silent_alias`).
-/

namespace ZGrid

open KeyRange

/-! ## The keys of a query -/

/-- The ranges of a tree in which one request has been selected hold keys of the grid only. -/
theorem RangeTree.lt_of_covers_ranges {geometry : Geometry} {bounds : Box Float} {level : Nat}
    {request : Request} {tree : RangeTree Float} {key : Key} (hlevel : level ≤ 31)
    (h : ((empty bounds level).respond geometry request).value = (.ok true, tree))
    (hcovers : Covers tree.ranges key) : key.toNat < 4 ^ level := by
  obtain ⟨region, -, -, rfl⟩ := exists_select_of_accepted h
  exact (Cover.tidy_select ..).lt_of_covers hlevel ((covers_merged _ key).mp hcovers)

theorem RangeTree.result_insert (tree : RangeTree Float) (polygon : Polygon Float) :
    (tree.insert polygon).result
      = (tree.respond Region.ofPolygon (.polygon polygon)).value.1.map fun inserted =>
          (inserted, (tree.respond Region.ofPolygon (.polygon polygon)).value.2) := rfl

/-- **A query answers with keys of the grid only.** -/
theorem GridIndex.lt_of_covers_queryPolygon {index : GridIndex} {vertices : List (Point Float)}
    {ranges : List KeyRange} {key : Key} (hlevel : index.grid.level ≤ 31)
    (h : (index.queryPolygon vertices).result = .ok ranges) (hcovers : Covers ranges key) :
    key.toNat < 4 ^ index.grid.level := by
  rw [queryPolygon] at h
  cases hpolygon : polygon vertices with
  | error error =>
    rw [hpolygon] at h
    cases h
  | ok polygon =>
    rw [hpolygon] at h
    dsimp only at h
    have hinsert := RangeTree.result_insert index.grid.rangeTree polygon
    generalize hrespond : (index.grid.rangeTree.respond Region.ofPolygon (.polygon polygon)).value
      = outcome at hinsert
    obtain ⟨_ | _ | _, tree⟩ := outcome
    · rw [Attempt.result_bind_of_error hinsert] at h
      cases h
    · rw [Attempt.result_bind_of_ok hinsert] at h
      cases h
      simp at hcovers
    · rw [Attempt.result_bind_of_ok hinsert] at h
      cases h
      exact RangeTree.lt_of_covers_ranges hlevel hrespond hcovers

namespace Grid

variable {grid : Grid Float} {longitude latitude row column : Int64} {key : Key}

/-- The log warns that the key of a point is that of another cell as well. -/
def Warns (grid : Grid Float) (longitude latitude : Int64) : Prop :=
  ∃ row column, .pointAliased longitude latitude row column grid.limit
    ∈ (grid.encodePoint longitude latitude).events

/-- The point has a row and a column, and a key. -/
structure HasKey (grid : Grid Float) (longitude latitude row column : Int64) (key : Key) :
    Prop where
  /-- The row and the column of the point. -/
  coordinate : grid.coordinate longitude latitude = .ok (row, column)
  /-- The key that the point is given. -/
  result : (grid.encodePoint longitude latitude).result = .ok key

/-! ## The steps to a key -/

theorem result_encodePoint_of_neg (h : grid.coordinate longitude latitude = .ok (row, column))
    (hneg : row < 0 ∨ column < 0) :
    (grid.encodePoint longitude latitude).result = .error (.outOfDomain row column) := by
  rw [encodePoint, lift, locate_of_neg h hneg]
  exact Attempt.result_bind_of_error rfl _

theorem encodePoint_of_nonneg (h : grid.coordinate longitude latitude = .ok (row, column))
    (hneg : ¬ (row < 0 ∨ column < 0)) :
    (grid.encodePoint longitude latitude).result = .ok (grid.key row column)
      ∧ (grid.encodePoint longitude latitude).events
        = if grid.isAliased row column then
            [.pointAliased longitude latitude row column grid.limit] else [] := by
  have hcell : (lift (.ok (row, column)) : Attempt (Int64 × Int64)).result = .ok (row, column) :=
    Attempt.result_ofExcept _
  rw [encodePoint, locate_of_nonneg h hneg, Attempt.result_bind_of_ok hcell,
    Attempt.events_bind_of_ok hcell, lift, Attempt.events_ofExcept, List.nil_append]
  dsimp only
  split
  · rw [Attempt.result_bind_of_ok (Attempt.result_tell _),
      Attempt.events_bind_of_ok (Attempt.result_tell _)]
    simp
  · simp

namespace HasKey

theorem nonneg (h : grid.HasKey longitude latitude row column key) : ¬ (row < 0 ∨ column < 0) :=
  fun hneg => nomatch (result_encodePoint_of_neg h.coordinate hneg).symm.trans h.result

/-- **The key of a point is that of a cell**, whose row and column are those of the point. -/
theorem exists_cell (h : grid.HasKey longitude latitude row column key) :
    ∃ r c : Nat, row.toInt = r ∧ column.toInt = c ∧ key = cellKey grid.level r c := by
  have hnonneg := h.nonneg
  rw [Int64.lt_iff_toInt_lt, Int64.lt_iff_toInt_lt, Int64.toInt_zero] at hnonneg
  refine ⟨row.toInt.toNat, column.toInt.toNat, by omega, by omega, ?_⟩
  rw [← key_eq]
  exact Except.ok.inj (h.result.symm.trans (encodePoint_of_nonneg h.coordinate h.nonneg).1)

variable (hlevel : grid.level ≤ 31)
include hlevel

/-- The log warns of the points past twice the grid. -/
theorem warns_iff (h : grid.HasKey longitude latitude row column key) :
    grid.Warns longitude latitude
      ↔ 2 ^ (grid.level + 1) ≤ row.toInt ∨ 2 ^ (grid.level + 1) ≤ column.toInt := by
  rw [Warns, (encodePoint_of_nonneg h.coordinate h.nonneg).2, ← isAliased_iff hlevel]
  split <;> simp [*]

/-- Without a warning no bit of the row and of the column is lost. -/
theorem exists_cell_of_not_warns (h : grid.HasKey longitude latitude row column key)
    (hwarns : ¬ grid.Warns longitude latitude) :
    ∃ r c : Nat, (row.toInt = r ∧ r < 2 ^ (grid.level + 1))
      ∧ (column.toInt = c ∧ c < 2 ^ (grid.level + 1)) ∧ key = cellKey grid.level r c := by
  obtain ⟨r, c, hrow, hcolumn, hkey⟩ := h.exists_cell
  rw [h.warns_iff hlevel, hrow, hcolumn] at hwarns
  push Not at hwarns
  exact ⟨r, c, ⟨hrow, by exact_mod_cast hwarns.1⟩, ⟨hcolumn, by exact_mod_cast hwarns.2⟩, hkey⟩

/-- The key is one of the grid when the bits that it has are those of a cell of the grid. -/
theorem lt_iff_mod (h : grid.HasKey longitude latitude row column key) :
    key.toNat < 4 ^ grid.level ↔ row.toInt % 2 ^ (grid.level + 1) < 2 ^ grid.level
      ∧ column.toInt % 2 ^ (grid.level + 1) < 2 ^ grid.level := by
  obtain ⟨r, c, hrow, hcolumn, rfl⟩ := h.exists_cell
  rw [toNat_cellKey_lt_iff hlevel, hrow, hcolumn]
  norm_cast

/-- Without a warning the key is one of the grid when the point lies in the grid. -/
theorem lt_iff (h : grid.HasKey longitude latitude row column key)
    (hwarns : ¬ grid.Warns longitude latitude) : key.toNat < 4 ^ grid.level
      ↔ row.toInt < 2 ^ grid.level ∧ column.toInt < 2 ^ grid.level := by
  obtain ⟨r, c, ⟨hrow, hr⟩, ⟨hcolumn, hc⟩, -⟩ := h.exists_cell_of_not_warns hlevel hwarns
  rw [h.lt_iff_mod hlevel, hrow, hcolumn]
  norm_cast
  rw [Nat.mod_eq_of_lt hr, Nat.mod_eq_of_lt hc]

/-- Without a warning a key stands for one cell. -/
theorem eq_iff {longitude' latitude' row' column' : Int64} {key' : Key}
    (h : grid.HasKey longitude latitude row column key)
    (h' : grid.HasKey longitude' latitude' row' column' key')
    (hwarns : ¬ grid.Warns longitude latitude) (hwarns' : ¬ grid.Warns longitude' latitude') :
    key = key' ↔ row = row' ∧ column = column' := by
  obtain ⟨r, c, ⟨hrow, hr⟩, ⟨hcolumn, hc⟩, rfl⟩ := h.exists_cell_of_not_warns hlevel hwarns
  obtain ⟨r', c', ⟨hrow', hr'⟩, ⟨hcolumn', hc'⟩, rfl⟩ :=
    h'.exists_cell_of_not_warns hlevel hwarns'
  rw [cellKey_inj hlevel hr hc hr' hc', ← Int64.toInt_inj, ← Int64.toInt_inj, hrow, hcolumn, hrow',
    hcolumn']
  norm_cast

/-- A point past the grid with a key of the grid has a warning. -/
theorem warns_of_past (h : grid.HasKey longitude latitude row column key)
    (hpast : 2 ^ grid.level ≤ row.toInt ∨ 2 ^ grid.level ≤ column.toInt)
    (hkey : key.toNat < 4 ^ grid.level) : grid.Warns longitude latitude := by
  by_contra hwarns
  have hinside := (h.lt_iff hlevel hwarns).mp hkey
  omega

end HasKey

/-- **No key of another cell without a warning.**  A point before the origin has no key.  Every
other point has one; without a warning the key is that of its cell alone, and a point past the grid
has the key of a cell of the grid, or is answered by a query, only with a warning. -/
theorem no_silent_alias (hlevel : grid.level ≤ 31) :
    (∀ longitude latitude row column, grid.coordinate longitude latitude = .ok (row, column) →
      ((grid.encodePoint longitude latitude).result = .error (.outOfDomain row column)
          ↔ row < 0 ∨ column < 0)
        ∧ (¬ (row < 0 ∨ column < 0) → ∃ key, grid.HasKey longitude latitude row column key))
    ∧ (∀ longitude latitude row column key, grid.HasKey longitude latitude row column key →
      key.toNat < 4 ^ (grid.level + 1)
        ∧ (grid.Warns longitude latitude
          ↔ 2 ^ (grid.level + 1) ≤ row.toInt ∨ 2 ^ (grid.level + 1) ≤ column.toInt)
        ∧ (¬ grid.Warns longitude latitude → (key.toNat < 4 ^ grid.level
          ↔ row.toInt < 2 ^ grid.level ∧ column.toInt < 2 ^ grid.level))
        ∧ (grid.Warns longitude latitude → (key.toNat < 4 ^ grid.level
          ↔ row.toInt % 2 ^ (grid.level + 1) < 2 ^ grid.level
            ∧ column.toInt % 2 ^ (grid.level + 1) < 2 ^ grid.level)))
    ∧ (∀ longitude latitude row column key longitude' latitude' row' column' key',
      grid.HasKey longitude latitude row column key →
        grid.HasKey longitude' latitude' row' column' key' →
        ¬ grid.Warns longitude latitude → ¬ grid.Warns longitude' latitude' →
          (key = key' ↔ row = row' ∧ column = column'))
    ∧ ∀ longitude latitude row column key, grid.HasKey longitude latitude row column key →
      2 ^ grid.level ≤ row.toInt ∨ 2 ^ grid.level ≤ column.toInt →
        (∃ r < 2 ^ grid.level, ∃ c < 2 ^ grid.level, key = cellKey grid.level r c)
          ∨ (∃ index : GridIndex, index.grid = grid ∧ ∃ vertices ranges,
            (index.queryPolygon vertices).result = .ok ranges ∧ Covers ranges key) →
          grid.Warns longitude latitude := by
  refine ⟨fun longitude latitude row column hcoordinate => ?_,
    fun longitude latitude row column key h => ?_, ?_,
    fun longitude latitude row column key h hpast hshared => ?_⟩
  · have hok := encodePoint_of_nonneg hcoordinate
    refine ⟨⟨fun herror => ?_, result_encodePoint_of_neg hcoordinate⟩,
      fun hneg => ⟨_, hcoordinate, (hok hneg).1⟩⟩
    by_contra hneg
    exact nomatch herror.symm.trans (hok hneg).1
  · refine ⟨?_, h.warns_iff hlevel, h.lt_iff hlevel, fun _ => h.lt_iff_mod hlevel⟩
    obtain ⟨r, c, -, -, rfl⟩ := h.exists_cell
    exact toNat_cellKey_lt hlevel r c
  · intro _ _ _ _ _ _ _ _ _ _ h h'
    exact h.eq_iff hlevel h'
  · refine h.warns_of_past hlevel hpast ?_
    obtain ⟨r, hr, c, hc, rfl⟩ | ⟨index, rfl, _, _, hquery, hcovers⟩ := hshared
    · rw [toNat_cellKey_lt_iff hlevel]
      exact ⟨(Nat.mod_le ..).trans_lt hr, (Nat.mod_le ..).trans_lt hc⟩
    · exact GridIndex.lt_of_covers_queryPolygon hlevel hquery hcovers

/-- Four rows and four columns of cells a degree wide. -/
def fourByFour : Grid Float := ⟨⟨0, 0⟩, ⟨1, 1⟩, 1, 2⟩

/-- Row 8 has the key of row 0, and a warning; row 7, past the grid as well, has a key of its own;
row -1 has none. -/
theorem no_silent_alias_fourByFour : fourByFour.level ≤ 31
    ∧ (fourByFour.encodePoint (-1) 0).result = .error (.outOfDomain (-1) 0)
    ∧ fourByFour.HasKey 8 0 8 0 0 ∧ fourByFour.Warns 8 0
    ∧ fourByFour.HasKey 7 0 7 0 42 ∧ ¬ fourByFour.Warns 7 0 ∧ (42 : Key) ≠ 0 := by
  obtain ⟨hcoordinate, hkeys, hdistinct, hpast⟩ := @no_silent_alias fourByFour (by decide)
  have h0 : fourByFour.HasKey 0 0 0 0 0 := ⟨rfl, rfl⟩
  have h7 : fourByFour.HasKey 7 0 7 0 42 := ⟨rfl, rfl⟩
  have h8 : fourByFour.HasKey 8 0 8 0 0 := ⟨rfl, rfl⟩
  have hsilent0 : ¬ fourByFour.Warns 0 0 := by
    rw [(hkeys _ _ _ _ _ h0).2.1]
    decide
  have hsilent7 : ¬ fourByFour.Warns 7 0 := by
    rw [(hkeys _ _ _ _ _ h7).2.1]
    decide
  refine ⟨by decide, ?_, h8, ?_, h7, hsilent7, ?_⟩
  · exact (hcoordinate (-1) 0 (-1) 0 rfl).1.mpr (by decide)
  · exact hpast _ _ _ _ _ h8 (by decide) (.inl ⟨0, by decide, 0, by decide, by decide +kernel⟩)
  · exact fun hsame => absurd ((hdistinct _ _ _ _ _ _ _ _ _ _ h7 h0 hsilent7 hsilent0).mp hsame).1
      (by decide)

end Grid

end ZGrid
