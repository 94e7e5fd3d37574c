import ZGrid.Proofs.CoverRanges
import ZGrid.Proofs.TreeRequest

/-!
# Proofs/CellByCell — a fresh tree selects the cells that a test of each one selects

    key of a cell in a range of the tree  ⟺  the region touches the centre of the cell

A selection trusts the region about whole boxes: a covered box is selected without a look at its
cells, and a skipped one is passed over.  `Region.Faithful` is what this asks of the answers, and
it goes down to the quarters of a box, as the selection does.
-/

namespace ZGrid

open KeyRange

variable {α : Type} [LT α] [DecidableLT α] [Midpoint α]

/-- What the region answers about a box on the way down is so for the centres of the cells below
that box. -/
structure Region.Faithful (region : Region α) (height : Nat) (box : Box α) : Prop where
  /-- Each centre below a covered box is touched. -/
  touches_of_covers : ∀ path rest : List Quadrant, path.length + rest.length = height →
    region.covers (box.follow path) = true →
      region.touches (box.follow (path ++ rest)).center = true
  /-- No centre below a skipped box is touched. -/
  not_touches_of_skips : ∀ path rest : List Quadrant, path.length + rest.length = height →
    region.skips (box.follow path) = true →
      region.touches (box.follow (path ++ rest)).center = false

namespace Region

variable {region : Region α} {height : Nat} {box : Box α}

theorem faithful_zero_iff : region.Faithful 0 box
    ↔ (region.covers box = true → region.touches box.center = true)
      ∧ (region.skips box = true → region.touches box.center = false) := by
  constructor
  · exact fun h => ⟨h.touches_of_covers [] [] rfl, h.not_touches_of_skips [] [] rfl⟩
  · rintro ⟨hcovers, hskips⟩
    have hnil : ∀ {path rest : List Quadrant}, path.length + rest.length = 0 →
        path = [] ∧ rest = [] := by
      intro path rest heq
      exact ⟨List.length_eq_zero_iff.mp (by omega), List.length_eq_zero_iff.mp (by omega)⟩
    constructor
    · intro path rest heq
      obtain ⟨rfl, rfl⟩ := hnil heq
      exact hcovers
    · intro path rest heq
      obtain ⟨rfl, rfl⟩ := hnil heq
      exact hskips

/-- A region is faithful when it is so about the box itself and below each of the quarters. -/
theorem faithful_succ_iff : region.Faithful (height + 1) box
    ↔ (region.covers box = true → ∀ path : List Quadrant, path.length = height + 1 →
        region.touches (box.follow path).center = true)
      ∧ (region.skips box = true → ∀ path : List Quadrant, path.length = height + 1 →
        region.touches (box.follow path).center = false)
      ∧ ∀ quadrant, region.Faithful height (box.quadrant quadrant) := by
  have hlength : ∀ {quadrant : Quadrant} {path rest : List Quadrant},
      (quadrant :: path).length + rest.length = height + 1
        ↔ path.length + rest.length = height := by
    intro quadrant path rest
    rw [List.length_cons, Nat.add_right_comm, Nat.add_right_cancel_iff]
  constructor
  · intro h
    refine ⟨?_, ?_, fun quadrant => ⟨?_, ?_⟩⟩
    · intro hcovers path heq
      exact h.touches_of_covers [] path ((Nat.zero_add _).trans heq) hcovers
    · intro hskips path heq
      exact h.not_touches_of_skips [] path ((Nat.zero_add _).trans heq) hskips
    · intro path rest heq
      exact h.touches_of_covers (quadrant :: path) rest (hlength.mpr heq)
    · intro path rest heq
      exact h.not_touches_of_skips (quadrant :: path) rest (hlength.mpr heq)
  · rintro ⟨hcovers, hskips, hquadrant⟩
    constructor
    · rintro (_ | ⟨quadrant, path⟩) rest heq hcovered
      · exact hcovers hcovered rest ((Nat.zero_add _).symm.trans heq)
      · exact (hquadrant quadrant).touches_of_covers path rest (hlength.mp heq) hcovered
    · rintro (_ | ⟨quadrant, path⟩) rest heq hskipped
      · exact hskips hskipped rest ((Nat.zero_add _).symm.trans heq)
      · exact (hquadrant quadrant).not_touches_of_skips path rest (hlength.mp heq) hskipped

end Region

namespace Cover

/-- **A selection covers the key of a cell exactly when the region touches its centre.**  The
induction follows the path of the cell; at each block on it the other quarters are of no matter. -/
theorem covers_select_iff {level height i j row column : Nat} {region : Region α} {box : Box α}
    (hlevel : level ≤ 31) (hheight : height ≤ level) (h : region.Faithful height box)
    (hwithin : (Extent.block height i j).Within level)
    (hcell : (Extent.block height i j).Holds row column) :
    Covers (ranges level (.block height i j) (select region height box)) (cellKey level row column)
      ↔ region.touches (box.follow (Quadrant.path height row column)).center = true := by
  have hkey := Extent.cellKey_mem_of_holds hlevel hheight hwithin hcell
  induction height generalizing i j box with
  | zero =>
    rw [select, Quadrant.path, Box.follow_nil]
    split
    · rename_i htouches
      exact iff_of_true (covers_cons.mpr (.inl hkey)) htouches
    · rename_i htouches
      exact iff_of_false covers_nil htouches
  | succ height ih =>
    have hbelow := Extent.holds_quadrant hcell
    rw [Region.faithful_succ_iff] at h
    rw [Quadrant.path, Box.follow_cons]
    generalize Quadrant.ofHalves _ _ = quadrant at hbelow ⊢
    have hquadrant := hwithin.quadrant quadrant
    rw [Extent.quadrant_block] at hbelow hquadrant
    have hdown := Extent.cellKey_mem_of_holds hlevel (Nat.le_of_succ_le hheight) hquadrant hbelow
    cases hcovers : region.covers box with
    | true =>
      rw [select_of_covers hcovers]
      refine iff_of_true (covers_cons.mpr (.inl hkey)) ?_
      exact h.1 hcovers (quadrant :: Quadrant.path height row column) (by simp)
    | false =>
      rw [select_of_not_covers hcovers, covers_settle hlevel (tidy_pieces fun _ => .inl rfl) hheight
        (Extent.quadrant_block height i j quadrant ▸ hdown), Extent.quadrant_block]
      cases hskips : region.skips (box.quadrant quadrant) with
      | true =>
        have huntouched := (h.2.2 quadrant).not_touches_of_skips []
          (Quadrant.path height row column) (by simp) hskips
        rw [pieces_of_skips hskips]
        exact iff_of_false covers_nil (Bool.not_eq_true _ ▸ huntouched)
      | false =>
        rw [pieces_of_not_skips hskips]
        exact ih (Nat.le_of_succ_le hheight) (h.2.2 quadrant) hquadrant hbelow hdown

end Cover

namespace RangeTree

/-- **A tree in which one region has been selected selects the cells whose centres the region
touches**, and no other key. -/
theorem touched_iff_of_accepted {geometry : Geometry} {bounds : Box Float} {level : Nat}
    {request : Request} {tree : RangeTree Float} {region : Region Float} (hlevel : level ≤ 31)
    (haccepted : ((empty bounds level).respond geometry request).value = (.ok true, tree))
    (hregion : request.region geometry = .ok region) (hfaithful : region.Faithful level bounds) :
    (∀ row column, row < 2 ^ level → column < 2 ^ level →
      (Extent.whole level).follow (Quadrant.path level row column)
          = ⟨row, row + 1, column, column + 1⟩
        ∧ ((∃ range ∈ tree.ranges, cellKey level row column ∈ range)
          ↔ region.touches (bounds.follow (Quadrant.path level row column)).center = true))
      ∧ ∀ range ∈ tree.ranges, ∀ key : Key, 4 ^ level ≤ key.toNat → ¬ key ∈ range := by
  obtain ⟨selected, hselected, -, rfl⟩ := exists_select_of_accepted haccepted
  obtain rfl : region = selected := Except.ok.inj (hregion.symm.trans hselected)
  have hmerged : ∀ key, Covers (ranges ⟨bounds, level, Cover.select region level bounds⟩) key
      ↔ Covers (Cover.ranges level (.whole level) (Cover.select region level bounds)) key :=
    fun key => covers_merged _ key
  constructor
  · intro row column hrow hcolumn
    have hwithin : (Extent.block level 0 0).Within level :=
      (Extent.within_block_iff le_rfl).mpr ⟨by positivity, by positivity⟩
    have hcell : (Extent.block level 0 0).Holds row column :=
      Extent.holds_block_iff.mpr ⟨Nat.div_eq_of_lt hrow, Nat.div_eq_of_lt hcolumn⟩
    refine ⟨Extent.follow_path_whole hrow hcolumn, ?_⟩
    rw [← Cover.covers_select_iff hlevel le_rfl hfaithful hwithin hcell, ← Extent.whole_eq_block]
    exact hmerged _
  · intro range hrange key hpast hkey
    have hcovers := (hmerged key).mp ⟨range, hrange, hkey⟩
    exact absurd ((Cover.tidy_select ..).lt_of_covers hlevel hcovers) (Nat.not_lt.mpr hpast)

private theorem answers_triangle : (match Request.region Region.ofPolygon
      (.vertices [⟨0.5, 0.5⟩, ⟨3.0, 1.0⟩, ⟨1.0, 3.5⟩]) with
    | .ok region =>
      let box : Box Float := ⟨0.0, 0.0, 4.0, 4.0⟩
      decide (region.Fits box ∧ region.covers box = false ∧ ∀ quadrant ∈ Quadrant.all,
        (region.covers (box.quadrant quadrant) = true →
            region.touches (box.quadrant quadrant).center = true)
          ∧ (region.skips (box.quadrant quadrant) = true →
            region.touches (box.quadrant quadrant).center = false))
    | .error _ => false) = true := by
  decide +kernel

/-- A triangle in a grid of two rows and two columns. -/
theorem touched_iff_triangle :
    ∃ region tree, Request.region Region.ofPolygon
        (.vertices [⟨0.5, 0.5⟩, ⟨3.0, 1.0⟩, ⟨1.0, 3.5⟩]) = .ok region
      ∧ region.Faithful 1 ⟨0.0, 0.0, 4.0, 4.0⟩
      ∧ ((empty ⟨0.0, 0.0, 4.0, 4.0⟩ 1).respond Region.ofPolygon
        (.vertices [⟨0.5, 0.5⟩, ⟨3.0, 1.0⟩, ⟨1.0, 3.5⟩])).value = (.ok true, tree)
      ∧ ((∃ range ∈ tree.ranges, cellKey 1 1 0 ∈ range) ↔ region.touches
        ((⟨0.0, 0.0, 4.0, 4.0⟩ : Box Float).follow (Quadrant.path 1 1 0)).center = true) := by
  have hanswers := answers_triangle
  generalize (⟨0.0, 0.0, 4.0, 4.0⟩ : Box Float) = box at hanswers ⊢
  generalize Request.vertices _ = request at hanswers ⊢
  cases hregion : request.region Region.ofPolygon with
  | error => rw [hregion] at hanswers; cases hanswers
  | ok region =>
    rw [hregion] at hanswers
    obtain ⟨hfits, hcovers, hquadrants⟩ := of_decide_eq_true hanswers
    obtain ⟨tree, htree⟩ := exists_of_accepted 1 (Request.accepted_iff.mpr ⟨region, hregion, hfits⟩)
    have hfaithful : region.Faithful 1 box := Region.faithful_succ_iff.mpr
      ⟨by simp [hcovers], by simp [hfits.meets], fun quadrant =>
        Region.faithful_zero_iff.mpr (hquadrants quadrant quadrant.mem_all)⟩
    have htouched := (touched_iff_of_accepted (by decide) htree hregion hfaithful).1
    exact ⟨region, tree, rfl, hfaithful, htree, (htouched 1 0 (by decide) (by decide)).2⟩

end RangeTree

end ZGrid
