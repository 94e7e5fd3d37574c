import ZGrid.Proofs.CoverRanges
import ZGrid.Proofs.TreeRequest

/-!
# Proofs/ExactTree — the statuses of a fresh tree are exact

A tree in which one region has been selected has no superfluous block, so each block says of itself
what is so (`ExactBlock`): full means all of its keys, partial means some, and only the whole grid
can be without any.

The ranges of the tree are then the maximal blocks that are selected whole.  A block that is
selected whole lies in a full block of the tree (`Compact.exists_full_prefix`), two full blocks
share no key (`Compact.full_unique`), and both together leave one choice.
-/

namespace ZGrid

open KeyRange

/-! ## The blocks of a tree -/

theorem Cover.hasChildren_iff {cover : Cover} :
    cover.hasChildren = true ↔ ∃ quadrant, cover.child quadrant ≠ .vacant := by
  simp only [hasChildren, List.any_eq_true, Bool.not_eq_true', ← Bool.not_eq_true, isVacant_iff]
  constructor
  · rintro ⟨quadrant, -, h⟩
    exact ⟨quadrant, h⟩
  · rintro ⟨quadrant, h⟩
    exact ⟨quadrant, quadrant.mem_all, h⟩

theorem Cover.follow_append (cover : Cover) (front back : List Quadrant) :
    cover.follow (front ++ back) = (cover.follow front).follow back := List.foldl_append

namespace RangeTree

section Blocks

variable {α : Type} [Midpoint α]

/-- The block at the end of a path. -/
def blockAt (tree : RangeTree α) (path : List Quadrant) : Block α where
  path := path
  status := (tree.root.follow path).status
  hasChildren := (tree.root.follow path).hasChildren
  box := tree.bounds.follow path
  extent := (Extent.whole tree.level).follow path

private theorem mem_blocks_go (cover : Cover) (front : List Quadrant) (box : Box α)
    (extent : Extent) (block : Block α) : block ∈ blocks.go cover front box extent
      ↔ ∃ path, cover.follow path ≠ .vacant ∧ block = ⟨front ++ path,
          (cover.follow path).status, (cover.follow path).hasChildren, box.follow path,
          extent.follow path⟩ := by
  induction cover generalizing front box extent with
  | vacant => simp [blocks.go]
  | block status northWest northEast southWest southEast nw ne sw se =>
    rw [blocks.go, List.mem_cons, List.mem_append, List.mem_append, List.mem_append, nw, ne, sw, se]
    constructor
    · rintro (rfl | ⟨path, h, rfl⟩ | ⟨path, h, rfl⟩ | ⟨path, h, rfl⟩ | ⟨path, h, rfl⟩)
      · exact ⟨[], nofun, by rw [List.append_nil]; rfl⟩
      · exact ⟨.northWest :: path, h, by rw [List.append_assoc]; rfl⟩
      · exact ⟨.northEast :: path, h, by rw [List.append_assoc]; rfl⟩
      · exact ⟨.southWest :: path, h, by rw [List.append_assoc]; rfl⟩
      · exact ⟨.southEast :: path, h, by rw [List.append_assoc]; rfl⟩
    · rintro ⟨_ | ⟨quadrant, path⟩, h, rfl⟩
      · exact .inl (by rw [List.append_nil]; rfl)
      · rw [List.append_cons]
        cases quadrant with
        | northWest => exact .inr (.inl ⟨path, h, rfl⟩)
        | northEast => exact .inr (.inr (.inl ⟨path, h, rfl⟩))
        | southWest => exact .inr (.inr (.inr (.inl ⟨path, h, rfl⟩)))
        | southEast => exact .inr (.inr (.inr (.inr ⟨path, h, rfl⟩)))

/-- **The blocks of a tree** are what stands at the ends of paths. -/
theorem mem_blocks_iff (tree : RangeTree α) (block : Block α) : block ∈ tree.blocks
    ↔ ∃ path, tree.root.follow path ≠ .vacant ∧ block = tree.blockAt path := by
  rw [blocks, mem_blocks_go]
  simp only [List.nil_append, blockAt]

end Blocks

variable {α : Type} [Midpoint α]

/-- The key is in a range of the tree. -/
def Selects (tree : RangeTree α) (key : Key) : Prop := Covers tree.blockRanges key

/-- What a block says of itself is so, and it is not there in vain. -/
structure ExactBlock (tree : RangeTree α) (block : Block α) : Prop where
  /-- The whole grid has depth one… -/
  depth_pos : 1 ≤ block.depth
  /-- …and a single cell is one deeper than the level. -/
  depth_le : block.depth ≤ tree.level + 1
  /-- Each step down halves the side. -/
  isBlock : block.extent.IsBlock (tree.level + 1 - block.depth)
  /-- The block lies in the grid. -/
  within : block.extent.Within tree.level
  /-- Its range has its ends in order. -/
  ordered : (block.extent.range tree.level).Ordered
  /-- A block is full when all of its keys are selected. -/
  full_iff : block.status = .full
    ↔ ∀ key ∈ block.extent.range tree.level, tree.Selects key
  /-- A block is disjoint when none of its keys is selected. -/
  disjoint_iff : block.status = .disjoint
    ↔ ∀ key ∈ block.extent.range tree.level, ¬ tree.Selects key
  /-- Only the whole grid can be disjoint. -/
  root_of_disjoint : block.status = .disjoint → block.path = []
  /-- A full block is not split. -/
  childless_of_full : block.status = .full → block.hasChildren = false
  /-- A partial block is no single cell, and its split is not in vain: it has a child, no child is
  disjoint, and not all four are full. -/
  split_of_partial : block.status = .partial →
    block.depth ≤ tree.level ∧ block.hasChildren = true
      ∧ (∀ child ∈ tree.blocks, ∀ quadrant, child.path = block.path ++ [quadrant] →
          child.status ≠ .disjoint)
      ∧ ¬ ∀ quadrant, ∃ child ∈ tree.blocks, child.path = block.path ++ [quadrant]
          ∧ child.status = .full

end RangeTree

/-! ## Statuses in a compact tree -/

namespace Cover

section Status

variable {level height i j : Nat} {cover : Cover} (hlevel : level ≤ 31)

theorem Compact.split_of_partial (h : Compact height cover) (hpartial : cover.status = .partial) :
    0 < height ∧ (∃ quadrant, cover.child quadrant ≠ vacant)
      ∧ (∀ quadrant, cover.child quadrant ≠ vacant → (cover.child quadrant).status ≠ .disjoint)
      ∧ ∃ quadrant, (cover.child quadrant).status ≠ .full := by
  cases h with
  | full => cases hpartial
  | «partial» kept occupied unfilled =>
    simp only [child_build]
    exact ⟨Nat.succ_pos _, occupied, fun quadrant h => (kept quadrant h).status_ne_disjoint,
      unfilled⟩

include hlevel

/-- **A compact tree is full when it covers all keys of its block.** -/
theorem Compact.status_full_iff (h : Compact height cover) (hheight : height ≤ level) (i j : Nat) :
    cover.status = .full ↔ ∀ key ∈ (Extent.block height i j).range level,
      Covers (ranges level (.block height i j) cover) key := by
  constructor
  · intro hfull key hkey
    rw [h.eq_leaf_of_full hfull, ranges_leaf_full]
    exact covers_cons.mpr (.inl hkey)
  · intro hcovers
    by_contra hstatus
    obtain ⟨key, hkey, huncovered⟩ := h.exists_uncovered hlevel hheight hstatus i j
    exact huncovered (hcovers key hkey)

/-- **A block that is covered whole lies in a full block.**  The induction goes down the path for
as long as it stays in the tree; it cannot leave a partial block through a vacant quarter. -/
theorem Compact.exists_full_prefix (h : Compact height cover) (hheight : height ≤ level)
    {path : List Quadrant} (hpath : path.length ≤ height)
    (hcovers : ∀ key ∈ ((Extent.block height i j).follow path).range level,
      Covers (ranges level (.block height i j) cover) key) :
    ∃ front, front <+: path ∧ (cover.follow front).status = .full := by
  induction path generalizing height cover i j with
  | nil => exact ⟨[], List.nil_prefix, (h.status_full_iff hlevel hheight i j).mpr hcovers⟩
  | cons quadrant path ih =>
    cases h with
    | full => exact ⟨[], List.nil_prefix, rfl⟩
    | @«partial» height child kept =>
      have hshort := Nat.le_of_succ_le_succ hpath
      have hdown : ∀ key ∈ ((Extent.block (height + 1) i j).follow (quadrant :: path)).range level,
          Covers (ranges level ((Extent.block (height + 1) i j).quadrant quadrant)
            (child quadrant)) key := by
        intro key hkey
        have hquadrant : key ∈ ((Extent.block (height + 1) i j).quadrant quadrant).range level := by
          rw [Extent.follow_cons, Extent.quadrant_block] at hkey
          rw [Extent.quadrant_block]
          exact Extent.range_follow_subset hlevel (by omega) hshort hkey
        exact (covers_quadrant hlevel kept hheight hquadrant).mp (hcovers key hkey)
      rw [Extent.follow_cons, Extent.quadrant_block] at hdown
      obtain ⟨i', j', heq, -, -⟩ := Extent.exists_follow_block path hshort
        (2 * i + quadrant.isEast.toNat) (2 * j + quadrant.isNorth.toNat)
      have hdepth : height - path.length ≤ level := by omega
      have hkey := Extent.start_mem_range_block hlevel hdepth i' j'
      have hchild := ne_vacant_of_covers (hdown _ (heq ▸ hkey))
      obtain ⟨front, ⟨back, hback⟩, hfull⟩ := ih (kept quadrant hchild) (by omega) hshort hdown
      refine ⟨quadrant :: front, ⟨back, by rw [List.cons_append, hback]⟩, ?_⟩
      rwa [follow_cons, child_build]

/-- **Two full blocks that share a key are the same block.** -/
theorem Compact.full_unique (h : Compact height cover) (hheight : height ≤ level)
    {a b : List Quadrant} (ha : (cover.follow a).status = .full)
    (hb : (cover.follow b).status = .full) {key : Key}
    (hakey : key ∈ ((Extent.block height i j).follow a).range level)
    (hbkey : key ∈ ((Extent.block height i j).follow b).range level) : a = b := by
  induction h generalizing i j a b with
  | full =>
    have hnil : ∀ {path : List Quadrant},
        ((leaf .full).follow path).status = .full → path = [] := by
      rintro (_ | ⟨quadrant, path⟩) hfull
      · rfl
      · rw [follow_cons, child_leaf, follow_vacant] at hfull
        cases hfull
    rw [hnil ha, hnil hb]
  | @«partial» height child kept occupied unfilled ih =>
    have hcompact := Compact.partial kept occupied unfilled
    have halength := (hcompact.follow (ne_vacant_of_full ha)).1
    have hblength := (hcompact.follow (ne_vacant_of_full hb)).1
    rcases a with _ | ⟨p, a⟩
    · cases ha
    rcases b with _ | ⟨q, b⟩
    · cases hb
    rw [Extent.follow_cons, Extent.quadrant_block] at hakey hbkey
    have hp := Extent.range_follow_subset hlevel (by omega) (Nat.le_of_succ_le_succ halength) hakey
    have hq := Extent.range_follow_subset hlevel (by omega) (Nat.le_of_succ_le_succ hblength) hbkey
    rw [← Extent.quadrant_block] at hp hq
    obtain rfl := Extent.quadrant_eq_of_mem_range hlevel hheight hp hq
    rw [follow_cons, child_build] at ha hb
    rw [ih p (ne_vacant_of_follow (ne_vacant_of_full ha)) (by omega) ha hb hakey hbkey]

end Status

end Cover

/-! ## Maximal blocks -/

namespace Extent

/-- A block of the grid whose keys are all selected, and that lies in no other such block. -/
structure IsMaximal (level : Nat) (selected : Key → Prop) (extent : Extent) : Prop where
  /-- It is an aligned square. -/
  isBlock : ∃ height, extent.IsBlock height
  /-- It lies in the grid. -/
  within : extent.Within level
  /-- All of its keys are selected. -/
  selected_of_mem : ∀ key ∈ extent.range level, selected key
  /-- A block around it whose keys are all selected is the block itself. -/
  maximal : ∀ other : Extent, (∃ height, other.IsBlock height) → other.Within level →
    (∀ key ∈ other.range level, selected key) →
    (∀ row column, extent.Holds row column → other.Holds row column) → other = extent

/-- Two blocks that hold the same cells are the same. -/
theorem block_eq_of_holds_iff {height height' i j i' j' : Nat} (h : ∀ row column,
    (block height i j).Holds row column ↔ (block height' i' j').Holds row column) :
    block height i j = block height' i' j' := by
  have hlt : ∀ {k n}, 2 ^ k * n < 2 ^ k * (n + 1) := fun {k n} =>
    Nat.mul_lt_mul_of_pos_left (Nat.lt_succ_self n) (by positivity)
  have hi := @hlt height i
  have hj := @hlt height j
  have hi' := @hlt height' i'
  have hj' := @hlt height' j'
  have hfirst := (h (2 ^ height * i) (2 ^ height * j)).mp ⟨le_rfl, hi, le_rfl, hj⟩
  have hlast := (h (2 ^ height * (i + 1) - 1) (2 ^ height * (j + 1) - 1)).mp
    ⟨by simp only [block]; omega, by simp only [block]; omega, by simp only [block]; omega,
      by simp only [block]; omega⟩
  have hfirst' := (h (2 ^ height' * i') (2 ^ height' * j')).mpr ⟨le_rfl, hi', le_rfl, hj'⟩
  have hlast' := (h (2 ^ height' * (i' + 1) - 1) (2 ^ height' * (j' + 1) - 1)).mpr
    ⟨by simp only [block]; omega, by simp only [block]; omega, by simp only [block]; omega,
      by simp only [block]; omega⟩
  simp only [Holds, block] at hfirst hlast hfirst' hlast'
  simp only [block, Extent.mk.injEq]
  omega

/-- The cells of one block of the grid are cells of another if the keys are keys of the other. -/
theorem holds_of_range_subset {level height height' i j i' j' : Nat} (hlevel : level ≤ 31)
    (hheight : height ≤ level) (hheight' : height' ≤ level)
    (hwithin : (block height i j).Within level) (hwithin' : (block height' i' j').Within level)
    (h : ∀ key ∈ (block height i j).range level, key ∈ (block height' i' j').range level)
    {row column : Nat} (hcell : (block height i j).Holds row column) :
    (block height' i' j').Holds row column := by
  obtain ⟨hrow, hcolumn⟩ := hwithin.lt_of_holds hcell
  exact (cellKey_mem_range_block hlevel hheight' hwithin' hrow hcolumn).mp
    (h _ (cellKey_mem_of_holds hlevel hheight hwithin hcell))

/-- …and the other way round. -/
theorem range_subset_of_holds {level height height' i j i' j' : Nat} (hlevel : level ≤ 31)
    (hheight : height ≤ level) (hheight' : height' ≤ level)
    (hwithin : (block height i j).Within level) (hwithin' : (block height' i' j').Within level)
    (h : ∀ row column, (block height i j).Holds row column →
      (block height' i' j').Holds row column) :
    ∀ key ∈ (block height i j).range level, key ∈ (block height' i' j').range level := by
  intro key hkey
  obtain ⟨⟨row, column⟩, hcell, rfl⟩ := (bijOn_cellKey_block hlevel hheight hwithin).surjOn hkey
  exact cellKey_mem_of_holds hlevel hheight' hwithin' (h row column hcell)

end Extent

namespace Cover

section Maximal

variable {level : Nat} {cover : Cover} (hlevel : level ≤ 31)
include hlevel

/-- **A block of the grid that is covered whole lies in a full block.** -/
theorem Compact.exists_full_around (h : Compact level cover) {height : Nat} {extent : Extent}
    (hblock : extent.IsBlock height) (hwithin : extent.Within level)
    (hcovers : ∀ key ∈ extent.range level, Covers (ranges level (.whole level) cover) key) :
    ∃ path, (cover.follow path).status = .full ∧ ∀ row column, extent.Holds row column →
      ((Extent.whole level).follow path).Holds row column := by
  obtain ⟨hheight, path, hlength, rfl⟩ := hblock.exists_path hwithin
  rw [Extent.whole_eq_block] at hcovers ⊢
  obtain ⟨front, ⟨back, rfl⟩, hfull⟩ :=
    h.exists_full_prefix hlevel le_rfl (hlength.trans_le (Nat.sub_le ..)) hcovers
  obtain ⟨hshort, -⟩ := h.follow (ne_vacant_of_full hfull)
  obtain ⟨i, j, heq, -, -⟩ := Extent.exists_follow_block front hshort 0 0
  have hback : back.length ≤ level - front.length := by
    rw [List.length_append] at hlength
    omega
  refine ⟨front, hfull, ?_⟩
  intro row column hcell
  rw [Extent.follow_append, heq] at hcell
  rw [heq]
  exact Extent.holds_of_holds_follow hback hcell

/-- **A full block is maximal.**  A larger block that is covered whole lies in a full block too,
which shares its keys with the first one. -/
theorem Compact.isMaximal_of_full (h : Compact level cover) {path : List Quadrant}
    (hfull : (cover.follow path).status = .full) : ((Extent.whole level).follow path).IsMaximal
      level (Covers (ranges level (.whole level) cover)) := by
  obtain ⟨hlength, hnode⟩ := h.follow (ne_vacant_of_full hfull)
  obtain ⟨i, j, heq, hwithin⟩ := Extent.exists_follow_whole hlength
  obtain ⟨first, hfirst⟩ : ∃ key, key ∈ (Extent.block (level - path.length) i j).range level :=
    ⟨_, Extent.start_mem_range_block hlevel (Nat.sub_le ..) i j⟩
  refine ⟨⟨_, heq ▸ Extent.isBlock_block ..⟩, heq ▸ hwithin, ?_, ?_⟩
  · intro key hkey
    rw [Extent.whole_eq_block] at hkey ⊢
    rw [h.covers_follow hlevel le_rfl (ne_vacant_of_full hfull) hkey, hnode.eq_leaf_of_full hfull,
      ranges_leaf_full]
    exact covers_cons.mpr (.inl hkey)
  · rintro other ⟨height, hother⟩ hgrid hcovers hholds
    obtain ⟨front, hfront, haround⟩ := h.exists_full_around hlevel hother hgrid hcovers
    obtain ⟨hlength', -⟩ := h.follow (ne_vacant_of_full hfront)
    obtain ⟨i', j', heq', hwithin'⟩ := Extent.exists_follow_whole hlength'
    obtain rfl : path = front := by
      have hshared := Extent.range_subset_of_holds hlevel (Nat.sub_le level path.length)
        (Nat.sub_le level front.length) hwithin hwithin' (fun row column hcell => by
          rw [← heq] at hcell
          exact heq' ▸ haround row column (hholds row column hcell)) _ hfirst
      rw [← heq] at hfirst
      rw [← heq'] at hshared
      rw [Extent.whole_eq_block] at hfirst hshared
      exact h.full_unique hlevel le_rfl hfull hfront hfirst hshared
    obtain ⟨i'', j'', rfl⟩ := hother.exists_eq_block
    rw [heq] at haround hholds ⊢
    exact Extent.block_eq_of_holds_iff fun row column =>
      ⟨haround row column, hholds row column⟩

/-- **A maximal block is a full block.** -/
theorem Compact.exists_full_of_isMaximal (h : Compact level cover) {extent : Extent}
    (hmaximal : extent.IsMaximal level (Covers (ranges level (.whole level) cover))) :
    ∃ path, (cover.follow path).status = .full ∧ extent = (Extent.whole level).follow path := by
  obtain ⟨⟨height, hblock⟩, hwithin, hcovers, hmax⟩ := hmaximal
  obtain ⟨path, hfull, haround⟩ := h.exists_full_around hlevel hblock hwithin hcovers
  obtain ⟨hblock', hwithin', hcovers', -⟩ := h.isMaximal_of_full hlevel hfull
  exact ⟨path, hfull, (hmax _ hblock' hwithin' hcovers' haround).symm⟩

end Maximal

end Cover

/-- A maximal block is pinned by its range. -/
theorem Extent.IsMaximal.eq_of_range_eq {level : Nat} (hlevel : level ≤ 31) {selected : Key → Prop}
    {a b : Extent} (ha : a.IsMaximal level selected) (hb : b.IsMaximal level selected)
    (hrange : a.range level = b.range level) : a = b := by
  obtain ⟨⟨height, hblock⟩, hwithin, -, hmax⟩ := ha
  obtain ⟨⟨height', hblock'⟩, hwithin', hselected', -⟩ := hb
  refine (hmax b ⟨height', hblock'⟩ hwithin' hselected' ?_).symm
  intro row column hcell
  have hheight := (hblock.exists_path hwithin).1
  have hheight' := (hblock'.exists_path hwithin').1
  obtain ⟨i, j, rfl⟩ := hblock.exists_eq_block
  obtain ⟨i', j', rfl⟩ := hblock'.exists_eq_block
  exact holds_of_range_subset hlevel hheight hheight' hwithin hwithin' (fun _ => hrange ▸ id) hcell

/-! ## Fresh trees -/

namespace RangeTree

section Tidy

variable {α : Type} [Midpoint α] {tree : RangeTree α} (hlevel : tree.level ≤ 31)
include hlevel

/-- In a grid with no cell selected the only block is the whole grid. -/
theorem exactBlock_of_leaf (hroot : tree.root = .leaf .disjoint) {path : List Quadrant}
    (hpath : tree.root.follow path ≠ .vacant) : tree.ExactBlock (tree.blockAt path) := by
  obtain rfl : path = [] := by
    obtain _ | ⟨quadrant, path⟩ := path
    · rfl
    · rw [hroot, Cover.follow_cons, Cover.child_leaf, Cover.follow_vacant] at hpath
      exact absurd rfl hpath
  have hstatus : (tree.blockAt []).status = .disjoint := congrArg Cover.status hroot
  have hextent : (tree.blockAt []).extent = .block tree.level 0 0 := Extent.whole_eq_block _
  have hnone : ∀ key, ¬ tree.Selects key := by
    intro key
    rw [Selects, blockRanges, hroot]
    exact covers_nil
  have hstart := Extent.start_mem_range_block hlevel le_rfl 0 0
  refine ⟨le_rfl, Nat.le_add_left .., ?_, ?_, ?_, ?_, ?_, fun _ => rfl, ?_, ?_⟩
  · rw [hextent]
    exact Extent.isBlock_block ..
  · rw [hextent]
    exact (Extent.within_block_iff le_rfl).mpr ⟨by positivity, by positivity⟩
  · rw [hextent]
    exact UInt64.le_trans hstart.1 hstart.2
  · rw [hstatus, hextent]
    exact ⟨nofun, fun hall => absurd (hall _ hstart) (hnone _)⟩
  · exact ⟨fun _ key _ => hnone key, fun _ => hstatus⟩
  · rw [hstatus]
    exact nofun
  · rw [hstatus]
    exact nofun

/-- **Each block of a compact tree is exact.** -/
theorem exactBlock_of_compact (h : Cover.Compact tree.level tree.root) {path : List Quadrant}
    (hpath : tree.root.follow path ≠ .vacant) : tree.ExactBlock (tree.blockAt path) := by
  obtain ⟨hlength, hnode⟩ := h.follow hpath
  obtain ⟨i, j, heq, hwithin⟩ := Extent.exists_follow_whole hlength
  have hextent : (tree.blockAt path).extent = .block (tree.level - path.length) i j := heq
  have hstart := Extent.start_mem_range_block hlevel (Nat.sub_le tree.level path.length) i j
  have hselects : ∀ key ∈ (Extent.block (tree.level - path.length) i j).range tree.level,
      tree.Selects key ↔ Covers (Cover.ranges tree.level
        (.block (tree.level - path.length) i j) (tree.root.follow path)) key := by
    intro key hkey
    rw [Extent.whole_eq_block] at heq
    rw [Selects, blockRanges, Extent.whole_eq_block, h.covers_follow hlevel le_rfl hpath, heq]
    rwa [heq]
  have hchild : ∀ {child : Block α}, child ∈ tree.blocks → ∀ {quadrant},
      child.path = path ++ [quadrant] →
      (tree.root.follow path).child quadrant ≠ .vacant
        ∧ child.status = ((tree.root.follow path).child quadrant).status := by
    intro child hmem quadrant hback
    obtain ⟨_, hne, rfl⟩ := (tree.mem_blocks_iff child).mp hmem
    obtain rfl : _ = path ++ [quadrant] := hback
    rw [Cover.follow_append] at hne
    exact ⟨hne, by simp only [blockAt, Cover.follow_append, Cover.follow_cons, Cover.follow_nil]⟩
  refine ⟨Nat.le_add_left .., Nat.succ_le_succ hlength, ?_, ?_, ?_, ?_, ?_, ?_, ?_, ?_⟩
  · rw [hextent, Block.depth, Nat.add_sub_add_right]
    exact Extent.isBlock_block ..
  · rwa [hextent]
  · rw [hextent]
    exact UInt64.le_trans hstart.1 hstart.2
  · rw [hextent, forall₂_congr hselects]
    exact hnode.status_full_iff hlevel (Nat.sub_le ..) i j
  · rw [hextent]
    refine ⟨fun hdisjoint => absurd hdisjoint hnode.status_ne_disjoint, ?_⟩
    intro hnone
    obtain ⟨key, hkey, hcovers⟩ := hnode.exists_covered hlevel (Nat.sub_le ..) i j
    exact absurd ((hselects key hkey).mpr hcovers) (hnone key hkey)
  · exact fun hdisjoint => absurd hdisjoint hnode.status_ne_disjoint
  · intro hfull
    change (tree.root.follow path).hasChildren = false
    rw [hnode.eq_leaf_of_full hfull]
    rfl
  · intro hpartial
    obtain ⟨hpos, hoccupied, hkept, unfilled, hunfilled⟩ := hnode.split_of_partial hpartial
    refine ⟨?_, Cover.hasChildren_iff.mpr hoccupied, ?_, ?_⟩
    · change path.length + 1 ≤ tree.level
      omega
    · intro child hmem quadrant hback
      obtain ⟨hne, hstatus⟩ := hchild hmem hback
      rw [hstatus]
      exact hkept quadrant hne
    · intro hall
      obtain ⟨child, hmem, hback, hfull⟩ := hall unfilled
      rw [(hchild hmem hback).2] at hfull
      exact hunfilled hfull

omit [Midpoint α] in
/-- A tidy tree lists each range once. -/
theorem nodup_blockRanges (h : Cover.Tidy tree.level tree.root) : tree.blockRanges.Nodup := by
  refine (h.pairwise_apart hlevel).imp_of_mem fun {a b} ha _ hapart heq => ?_
  have hordered := (h.exists_block_of_mem hlevel ha).1
  have hstart : a.start ∈ a := ⟨UInt64.le_refl _, hordered⟩
  exact hapart a.start ⟨hstart, heq ▸ hstart⟩

omit [Midpoint α] in
/-- **The ranges of a tidy tree are its maximal blocks.** -/
theorem mem_blockRanges_iff (h : Cover.Tidy tree.level tree.root) (range : KeyRange) :
    range ∈ tree.blockRanges ↔ ∃! extent : Extent,
      extent.IsMaximal tree.level tree.Selects ∧ range = extent.range tree.level := by
  have hpinned : (∃! extent : Extent, extent.IsMaximal tree.level tree.Selects
        ∧ range = extent.range tree.level)
      ↔ ∃ extent : Extent, extent.IsMaximal tree.level tree.Selects
        ∧ range = extent.range tree.level := by
    refine ⟨ExistsUnique.exists, ?_⟩
    rintro ⟨extent, hmaximal, hrange⟩
    exact ⟨extent, ⟨hmaximal, hrange⟩, fun other ⟨hother, hrange'⟩ =>
      hother.eq_of_range_eq hlevel hmaximal (hrange'.symm.trans hrange)⟩
  rw [hpinned]
  obtain hroot | hcompact := h
  · have hnone : ∀ key, ¬ tree.Selects key := by
      intro key
      rw [Selects, blockRanges, hroot]
      exact covers_nil
    rw [blockRanges, hroot, Cover.ranges_leaf_disjoint]
    refine ⟨nofun, ?_⟩
    rintro ⟨extent, ⟨⟨height, hblock⟩, hwithin, hselected, -⟩, -⟩
    have hheight := (hblock.exists_path hwithin).1
    obtain ⟨i, j, rfl⟩ := hblock.exists_eq_block
    exact absurd (hselected _ (Extent.start_mem_range_block hlevel hheight i j)) (hnone _)
  · rw [blockRanges, hcompact.mem_ranges_iff]
    constructor
    · rintro ⟨path, hfull, rfl⟩
      exact ⟨_, hcompact.isMaximal_of_full hlevel hfull, rfl⟩
    · rintro ⟨extent, hmaximal, rfl⟩
      obtain ⟨path, hfull, rfl⟩ := hcompact.exists_full_of_isMaximal hlevel hmaximal
      exact ⟨path, hfull, rfl⟩

end Tidy

/-- **A tree in which one region has been selected is exact and has no superfluous block.**  Each of
its blocks says what is so, and its ranges are the maximal blocks whose keys are all selected, each
of them once. -/
theorem exact_of_accepted {geometry : Geometry} {bounds : Box Float} {level : Nat}
    {request : Request} {tree : RangeTree Float} (hlevel : level ≤ 31)
    (haccepted : ((empty bounds level).respond geometry request).value = (.ok true, tree)) :
    tree.level = level
      ∧ (∀ block ∈ tree.blocks, tree.ExactBlock block)
      ∧ tree.blockRanges.Nodup
      ∧ ∀ range, range ∈ tree.blockRanges ↔ ∃! extent : Extent,
          extent.IsMaximal level tree.Selects ∧ range = extent.range level := by
  obtain ⟨region, -, -, rfl⟩ := exists_select_of_accepted haccepted
  have htidy := Cover.tidy_select region level bounds
  refine ⟨rfl, ?_, nodup_blockRanges hlevel htidy, mem_blockRanges_iff hlevel htidy⟩
  intro block hblock
  obtain ⟨path, hpath, rfl⟩ := (mem_blocks_iff _ block).mp hblock
  obtain hroot | hcompact := htidy
  · exact exactBlock_of_leaf hlevel hroot hpath
  · exact exactBlock_of_compact hlevel hcompact hpath

private theorem accepted_triangle : Request.accepted Region.ofPolygon ⟨0.0, 0.0, 4.0, 4.0⟩
    (.vertices [⟨0.5, 0.5⟩, ⟨3.0, 1.0⟩, ⟨1.0, 3.5⟩]) = true := by
  decide +kernel

/-- A triangle in a grid of four rows and four columns. -/
theorem exact_triangle :
    ∃ tree, ((empty ⟨0.0, 0.0, 4.0, 4.0⟩ 2).respond Region.ofPolygon
        (.vertices [⟨0.5, 0.5⟩, ⟨3.0, 1.0⟩, ⟨1.0, 3.5⟩])).value = (.ok true, tree)
      ∧ tree.level = 2 ∧ ∀ block ∈ tree.blocks, tree.ExactBlock block := by
  obtain ⟨tree, htree⟩ := exists_of_accepted 2 accepted_triangle
  obtain ⟨hlevel, hexact, -⟩ := exact_of_accepted (by decide) htree
  exact ⟨tree, htree, hlevel, hexact⟩

end RangeTree

end ZGrid
