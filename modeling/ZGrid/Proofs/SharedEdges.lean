import ZGrid.Proofs.BlockPath
import ZGrid.Proofs.ExactTree
import ZGrid.Proofs.TreeReuse

/-!
# Proofs/SharedEdges — neighbouring blocks share their edges

A side is cut at its midpoint, both halves at theirs, and so on.  That gives the side its **lines**,
one more than there are parts:

```
   low       ·      midpoint      ·       high
    0        1         2          3         4        height 2
```

Every box that splitting leads to lies between the lines at the ends of its rows and of its columns
(`follow_eq_ofExtent`), whatever way leads there.  So two boxes that end at one row end at one
number, and no law of the midpoint is asked for: it may round as it likes.
-/

namespace ZGrid

variable {α : Type} [Midpoint α]

/-! ## The lines of a side -/

/-- The line at a place of a side that is cut into `2 ^ height` parts. -/
def Midpoint.line (low high : α) : (height place : Nat) → α
  | 0, place => if place = 0 then low else high
  | height + 1, place =>
    if place ≤ 2 ^ height then line low (midpoint low high) height place
    else line (midpoint low high) high height (place - 2 ^ height)

namespace Midpoint

@[simp] theorem line_first (low high : α) (height : Nat) : line low high height 0 = low := by
  induction height generalizing high with
  | zero => rfl
  | succ height ih => rw [line, if_pos (Nat.zero_le _), ih]

@[simp] theorem line_last (low high : α) (height : Nat) :
    line low high height (2 ^ height) = high := by
  induction height generalizing low with
  | zero => rfl
  | succ height ih =>
    have hpast : ¬ 2 ^ (height + 1) ≤ 2 ^ height := by
      rw [not_le]
      exact Nat.pow_lt_pow_right (by decide) (Nat.lt_succ_self height)
    rw [line, if_neg hpast, Nat.pow_succ, Nat.mul_two, Nat.add_sub_cancel, ih]

/-- The lines of a half are lines of the whole side; at the midpoint the halves have one in
common. -/
theorem line_half (low high : α) (height : Nat) (upper : Bool) {place : Nat}
    (hplace : place ≤ 2 ^ height) :
    line low high (height + 1) (2 ^ height * upper.toNat + place)
      = line (if upper then midpoint low high else low) (if upper then high else midpoint low high)
          height place := by
  cases upper with
  | false =>
    rw [Bool.toNat_false, Nat.mul_zero, Nat.zero_add, line, if_pos hplace]
    rfl
  | true =>
    rw [Bool.toNat_true, Nat.mul_one, line]
    split
    · rename_i hmiddle
      obtain rfl : place = 0 := by omega
      rw [Nat.add_zero, line_last, if_pos rfl, line_first]
    · rw [Nat.add_sub_cancel_left]
      rfl

end Midpoint

/-! ## The box of an extent -/

/-- The box between the lines at the ends of an extent, in a box of `2 ^ height` rows and
columns. -/
def Box.ofExtent (box : Box α) (height : Nat) (extent : Extent) : Box α where
  left := Midpoint.line box.left box.right height extent.startRow
  bottom := Midpoint.line box.bottom box.top height extent.startColumn
  right := Midpoint.line box.left box.right height extent.stopRow
  top := Midpoint.line box.bottom box.top height extent.stopColumn

theorem Box.quadrant_eq (box : Box α) (quadrant : Quadrant) : box.quadrant quadrant =
    ⟨if quadrant.isEast then box.center.x else box.left,
      if quadrant.isNorth then box.center.y else box.bottom,
      if quadrant.isEast then box.right else box.center.x,
      if quadrant.isNorth then box.top else box.center.y⟩ := by
  cases quadrant <;> rfl

namespace Extent

/-- The extent with its rows and columns counted from a cell on. -/
def offset (row column : Nat) (extent : Extent) : Extent :=
  ⟨row + extent.startRow, row + extent.stopRow, column + extent.startColumn,
    column + extent.stopColumn⟩

/-- No end lies past the rows and columns of a block. -/
structure EndsWithin (height : Nat) (extent : Extent) : Prop where
  /-- The first row is one of them, or the next. -/
  startRow_le : extent.startRow ≤ 2 ^ height
  /-- The rows end with them. -/
  stopRow_le : extent.stopRow ≤ 2 ^ height
  /-- The first column is one of them, or the next. -/
  startColumn_le : extent.startColumn ≤ 2 ^ height
  /-- The columns end with them. -/
  stopColumn_le : extent.stopColumn ≤ 2 ^ height

/-- The ends in a quarter are ends in the block. -/
theorem EndsWithin.offset {height : Nat} {extent : Extent} (h : extent.EndsWithin height)
    (east north : Bool) :
    (extent.offset (2 ^ height * east.toNat) (2 ^ height * north.toNat)).EndsWithin
      (height + 1) := by
  have hend : ∀ (upper : Bool) {place : Nat}, place ≤ 2 ^ height →
      2 ^ height * upper.toNat + place ≤ 2 ^ (height + 1) := by
    intro upper place hplace
    calc 2 ^ height * upper.toNat + place ≤ 2 ^ height * 1 + 2 ^ height :=
          Nat.add_le_add (Nat.mul_le_mul_left _ upper.toNat_le) hplace
      _ = 2 ^ (height + 1) := by ring
  exact ⟨hend east h.startRow_le, hend east h.stopRow_le, hend north h.startColumn_le,
    hend north h.stopColumn_le⟩

end Extent

/-- The box of an extent in a quarter is its box in the whole. -/
theorem Box.ofExtent_quadrant {height : Nat} {extent : Extent} (h : extent.EndsWithin height)
    (box : Box α) (quadrant : Quadrant) : (box.quadrant quadrant).ofExtent height extent
      = box.ofExtent (height + 1)
          (extent.offset (2 ^ height * quadrant.isEast.toNat)
            (2 ^ height * quadrant.isNorth.toNat)) := by
  rw [quadrant_eq, ofExtent, ofExtent]
  simp only [Extent.offset, Midpoint.line_half _ _ _ _ h.startRow_le,
    Midpoint.line_half _ _ _ _ h.stopRow_le, Midpoint.line_half _ _ _ _ h.startColumn_le,
    Midpoint.line_half _ _ _ _ h.stopColumn_le]
  rfl

/-- **Splitting a box and a block side by side.**  Seen from the first cell of the block, the block
at the end of a path is an extent that tells where the box at the end of the path lies. -/
theorem exists_extent_of_path (path : List Quadrant) {height : Nat} (hpath : path.length ≤ height)
    (box : Box α) (i j : Nat) : ∃ extent : Extent, extent.EndsWithin height
      ∧ (Extent.block height i j).follow path = extent.offset (2 ^ height * i) (2 ^ height * j)
      ∧ box.follow path = box.ofExtent height extent := by
  induction path generalizing height box i j with
  | nil =>
    refine ⟨.whole height, ⟨Nat.zero_le _, le_rfl, Nat.zero_le _, le_rfl⟩, ?_, ?_⟩
    · simp [Extent.block, Extent.offset, Extent.whole, Nat.mul_succ]
    · simp [Box.ofExtent, Extent.whole]
  | cons quadrant path ih =>
    obtain ⟨height, rfl⟩ : ∃ half, height = half + 1 := ⟨height - 1, by simp at hpath; omega⟩
    obtain ⟨extent, hends, hblock, hbox⟩ := ih (Nat.le_of_succ_le_succ hpath)
      (box.quadrant quadrant) (2 * i + quadrant.isEast.toNat) (2 * j + quadrant.isNorth.toNat)
    have hplace : ∀ k bit n : Nat,
        2 ^ height * (2 * k + bit) + n = 2 ^ (height + 1) * k + (2 ^ height * bit + n) :=
      fun k bit n => by ring
    refine ⟨_, hends.offset quadrant.isEast quadrant.isNorth, ?_, ?_⟩
    · rw [Extent.follow_cons, Extent.quadrant_block, hblock]
      simp only [Extent.offset, hplace]
    · rw [Box.follow_cons, hbox, Box.ofExtent_quadrant hends]

/-- **The box at the end of a path** lies between the lines at the ends of the block there. -/
theorem Box.follow_eq_ofExtent (bounds : Box α) {level : Nat} {path : List Quadrant}
    (hpath : path.length ≤ level) :
    bounds.follow path = bounds.ofExtent level ((Extent.whole level).follow path) := by
  obtain ⟨extent, -, hblock, hbox⟩ := exists_extent_of_path path hpath bounds 0 0
  rw [hbox, Extent.whole_eq_block, hblock]
  simp [Extent.offset]

/-! ## Neighbours -/

/-- Two blocks have one edge wherever their rows or their columns have one end. -/
structure Block.EdgesAgree (a b : Block α) : Prop where
  /-- Blocks that begin at one row have one western edge… -/
  left : a.extent.startRow = b.extent.startRow → a.box.left = b.box.left
  /-- …and those that end at one row have one eastern edge. -/
  right : a.extent.stopRow = b.extent.stopRow → a.box.right = b.box.right
  /-- Blocks that begin at one column have one southern edge… -/
  bottom : a.extent.startColumn = b.extent.startColumn → a.box.bottom = b.box.bottom
  /-- …and those that end at one column have one northern edge. -/
  top : a.extent.stopColumn = b.extent.stopColumn → a.box.top = b.box.top
  /-- A block that ends at the row at which another one begins shares its edge… -/
  right_left : a.extent.stopRow = b.extent.startRow → a.box.right = b.box.left
  /-- …and so does one that ends at its first column. -/
  top_bottom : a.extent.stopColumn = b.extent.startColumn → a.box.top = b.box.bottom

/-- The first and the last rows and columns reach the edges of the grid. -/
structure Block.ReachesEdges (bounds : Box α) (level : Nat) (block : Block α) : Prop where
  /-- The first row begins at the western edge… -/
  left : block.extent.startRow = 0 → block.box.left = bounds.left
  /-- …and the last one ends at the eastern edge. -/
  right : block.extent.stopRow = 2 ^ level → block.box.right = bounds.right
  /-- The first column begins at the southern edge… -/
  bottom : block.extent.startColumn = 0 → block.box.bottom = bounds.bottom
  /-- …and the last one ends at the northern edge. -/
  top : block.extent.stopColumn = 2 ^ level → block.box.top = bounds.top

namespace Block

variable {bounds : Box α} {level : Nat} {a b : Block α}

theorem edgesAgree_of_ofExtent (ha : a.box = bounds.ofExtent level a.extent)
    (hb : b.box = bounds.ofExtent level b.extent) : a.EdgesAgree b where
  left hend := by simp only [ha, hb, Box.ofExtent, hend]
  right hend := by simp only [ha, hb, Box.ofExtent, hend]
  bottom hend := by simp only [ha, hb, Box.ofExtent, hend]
  top hend := by simp only [ha, hb, Box.ofExtent, hend]
  right_left hend := by simp only [ha, hb, Box.ofExtent, hend]
  top_bottom hend := by simp only [ha, hb, Box.ofExtent, hend]

theorem reachesEdges_of_ofExtent (ha : a.box = bounds.ofExtent level a.extent) :
    a.ReachesEdges bounds level where
  left hend := by simp only [ha, Box.ofExtent, hend, Midpoint.line_first]
  right hend := by simp only [ha, Box.ofExtent, hend, Midpoint.line_last]
  bottom hend := by simp only [ha, Box.ofExtent, hend, Midpoint.line_first]
  top hend := by simp only [ha, Box.ofExtent, hend, Midpoint.line_last]

end Block

/-! ## The blocks of a tree -/

/-- What stands below a tree that requests leave behind is no deeper than a cell. -/
theorem Cover.Reused.length_le {height : Nat} {cover : Cover} (h : Reused height cover)
    {path : List Quadrant} (hpath : cover.follow path ≠ vacant) : path.length ≤ height := by
  cases path with
  | nil => exact Nat.zero_le _
  | cons quadrant path =>
    have hchild : cover.child quadrant ≠ vacant := ne_vacant_of_follow hpath
    cases height with
    | zero => exact absurd (h.child_zero quadrant) hchild
    | succ height => exact Nat.succ_le_succ ((h.kept hchild).follow hpath).1

namespace RangeTree

/-- A block that stands in a tree after requests is no deeper than a cell, and its box and its
extent are those at the end of its path. -/
theorem mem_blocks_run {geometry : Geometry} {bounds : Box Float} {level : Nat}
    {requests : List Request} {block : Block Float}
    (h : block ∈ ((empty bounds level).run geometry requests).blocks) :
    block.path.length ≤ level ∧ block.box = bounds.follow block.path
      ∧ block.extent = (Extent.whole level).follow block.path := by
  obtain ⟨hbounds, hlevel, hreused⟩ := reused_run geometry bounds level requests
  obtain ⟨path, hpath, rfl⟩ := (mem_blocks_iff ..).mp h
  refine ⟨(hreused.length_le hpath).trans_eq hlevel, ?_, ?_⟩
  · rw [blockAt, hbounds]
  · rw [blockAt, hlevel]

/-- **The blocks of a grid leave no gap**, however midpoints are rounded.  The edges of a block are
told by its rows and its columns alone; two blocks, wherever they lie, have one edge where the one
ends and the other begins; and the first and the last of them reach the edges of the grid.  The
blocks of a tree are such blocks. -/
theorem edges_agree : (∀ (α : Type) [Midpoint α] (bounds : Box α) (level : Nat),
      (∀ p q : List Quadrant, p.length ≤ level → q.length ≤ level →
        ((empty bounds level).blockAt p).EdgesAgree ((empty bounds level).blockAt q))
      ∧ ∀ path : List Quadrant, path.length ≤ level →
        ((empty bounds level).blockAt path).ReachesEdges bounds level)
    ∧ ∀ (geometry : Geometry) (bounds : Box Float) (level : Nat) (requests : List Request),
      ∀ block ∈ ((empty bounds level).run geometry requests).blocks,
        block.path.length ≤ level
          ∧ block.box = ((empty bounds level).blockAt block.path).box
          ∧ block.extent = ((empty bounds level).blockAt block.path).extent := by
  refine ⟨fun α _ bounds level => ?_, fun _ _ _ _ _ hblock => mem_blocks_run hblock⟩
  have hbox : ∀ path : List Quadrant, path.length ≤ level →
      ((empty bounds level).blockAt path).box
        = bounds.ofExtent level ((empty bounds level).blockAt path).extent :=
    fun _ hpath => bounds.follow_eq_ofExtent hpath
  exact ⟨fun p q hp hq => Block.edgesAgree_of_ofExtent (hbox p hp) (hbox q hq),
    fun path hpath => Block.reachesEdges_of_ofExtent (hbox path hpath)⟩

/-- Two cells at the two sides of row 2 of eight, one in the south-western quarter and one in the
north-western: for the one their edge is the end of a quarter, for the other its beginning. -/
theorem edges_agree_quarter :
    ((Extent.whole 3).follow [.southWest, .northWest, .southEast]).stopRow
        = ((Extent.whole 3).follow [.northWest, .southEast, .northWest]).startRow
      ∧ ((⟨0.1, 0.2, 0.7, 0.9⟩ : Box Float).follow [.southWest, .northWest, .southEast]).right
        = ((⟨0.1, 0.2, 0.7, 0.9⟩ : Box Float).follow [.northWest, .southEast, .northWest]).left
      ∧ ((⟨0.1, 0.2, 0.7, 0.9⟩ : Box Float).follow [.southWest, .southWest, .northWest]).left
        = 0.1 := by
  have hrows : ((Extent.whole 3).follow [.southWest, .northWest, .southEast]).stopRow
      = ((Extent.whole 3).follow [.northWest, .southEast, .northWest]).startRow := by decide
  have hfirst : ((Extent.whole 3).follow [.southWest, .southWest, .northWest]).startRow = 0 := by
    decide
  have hedges : ∀ bounds : Box Float,
      (bounds.follow [.southWest, .northWest, .southEast]).right
          = (bounds.follow [.northWest, .southEast, .northWest]).left
        ∧ (bounds.follow [.southWest, .southWest, .northWest]).left = bounds.left := by
    intro bounds
    obtain ⟨hshared, houter⟩ := edges_agree.1 Float bounds 3
    exact ⟨(hshared _ _ (by decide) (by decide)).right_left hrows,
      (houter [.southWest, .southWest, .northWest] (by decide)).left hfirst⟩
  exact ⟨hrows, hedges _⟩

end RangeTree

end ZGrid
