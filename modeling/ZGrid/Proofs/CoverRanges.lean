import ZGrid.Proofs.BlockPath
import ZGrid.Proofs.CompactCover

/-!
# Proofs/CoverRanges — the ranges of a compact tree

The ranges of a tree are the runs of its full blocks.  In a quarter of a block only the ranges of
that quarter hold a key (`covers_quadrant`), so what a tree covers is read off by going down:

    key in the run of a quarter   ⟹   covered by the tree  ⟺  covered by what stands at the quarter

That makes the statuses of a compact tree exact: every block has a covered key
(`Compact.exists_covered`), and every block that is not full has one that is not covered
(`Compact.exists_uncovered`), however deep the hole lies.
-/

namespace ZGrid

/-- No key lies in both ranges. -/
def KeyRange.Apart (a b : KeyRange) : Prop := ∀ key, ¬ (key ∈ a ∧ key ∈ b)

namespace Cover

open KeyRange

/-! ## The ranges of a tree -/

@[simp] theorem ranges_vacant (level : Nat) (extent : Extent) : ranges level extent vacant = [] :=
  rfl

@[simp] theorem ranges_leaf_full (level : Nat) (extent : Extent) :
    ranges level extent (leaf .full) = [extent.range level] := rfl

@[simp] theorem ranges_leaf_disjoint (level : Nat) (extent : Extent) :
    ranges level extent (leaf .disjoint) = [] := rfl

theorem ranges_build_partial (level : Nat) (extent : Extent) (child : Quadrant → Cover) :
    ranges level extent (build .partial child) = Quadrant.listed.flatMap fun quadrant =>
      ranges level (extent.quadrant quadrant) (child quadrant) := by
  simp [ranges, build, Quadrant.listed]

/-- A vacant place has no ranges. -/
theorem ne_vacant_of_mem_ranges {level : Nat} {extent : Extent} {cover : Cover} {range : KeyRange}
    (h : range ∈ ranges level extent cover) : cover ≠ vacant := by
  rintro rfl
  cases h

theorem ne_vacant_of_covers {level : Nat} {extent : Extent} {cover : Cover} {key : Key}
    (h : Covers (ranges level extent cover) key) : cover ≠ vacant := by
  obtain ⟨_, hrange, -⟩ := h
  exact ne_vacant_of_mem_ranges hrange

theorem covers_build_partial (level : Nat) (extent : Extent) (child : Quadrant → Cover)
    (key : Key) : Covers (ranges level extent (build .partial child)) key
      ↔ ∃ quadrant, Covers (ranges level (extent.quadrant quadrant) (child quadrant)) key := by
  rw [ranges_build_partial]
  constructor
  · rintro ⟨range, hrange, hkey⟩
    obtain ⟨quadrant, -, hmem⟩ := List.mem_flatMap.mp hrange
    exact ⟨quadrant, range, hmem, hkey⟩
  · rintro ⟨quadrant, range, hmem, hkey⟩
    exact ⟨range, List.mem_flatMap.mpr ⟨quadrant, quadrant.mem_listed, hmem⟩, hkey⟩

/-- A tidy tree that selects nothing has no ranges. -/
theorem not_covers_of_status {height level : Nat} {extent : Extent} {cover : Cover}
    (h : cover = vacant ∨ Tidy height cover) (hstatus : cover.status = .disjoint) (key : Key) :
    ¬ Covers (ranges level extent cover) key := by
  obtain rfl | rfl | hcompact := h
  · exact covers_nil
  · exact covers_nil
  · exact absurd hstatus hcompact.status_ne_disjoint

/-- **A range of a compact tree is the run of a full block**, whatever rows and columns the tree
stands on. -/
theorem Compact.mem_ranges_iff {height : Nat} {cover : Cover} (h : Compact height cover)
    (level : Nat) (extent : Extent) (range : KeyRange) :
    range ∈ ranges level extent cover
      ↔ ∃ path, (cover.follow path).status = .full ∧ range = (extent.follow path).range level := by
  induction h generalizing extent with
  | full =>
    rw [ranges_leaf_full, List.mem_singleton]
    refine ⟨fun heq => ⟨[], rfl, heq⟩, ?_⟩
    rintro ⟨_ | ⟨quadrant, path⟩, hfull, heq⟩
    · exact heq
    · rw [follow_cons, child_leaf, follow_vacant] at hfull
      cases hfull
  | @«partial» height child kept _ _ ih =>
    rw [ranges_build_partial, List.mem_flatMap]
    constructor
    · rintro ⟨quadrant, -, hmem⟩
      obtain ⟨path, hfull, heq⟩ := (ih quadrant (ne_vacant_of_mem_ranges hmem) _).mp hmem
      exact ⟨quadrant :: path, by rwa [follow_cons, child_build], heq⟩
    · rintro ⟨_ | ⟨quadrant, path⟩, hfull, heq⟩
      · cases hfull
      · rw [follow_cons, child_build] at hfull
        have hchild := ne_vacant_of_follow (ne_vacant_of_full hfull)
        exact ⟨quadrant, quadrant.mem_listed, (ih quadrant hchild _).mpr ⟨path, hfull, heq⟩⟩

/-! ## What a compact tree covers -/

section Covered

variable {level height i j : Nat} {cover : Cover} (hlevel : level ≤ 31)
include hlevel

/-- A compact tree covers keys of its block alone. -/
theorem Compact.mem_range_of_covers (h : Compact height cover) (hheight : height ≤ level)
    {key : Key} (hkey : Covers (ranges level (.block height i j) cover) key) :
    key ∈ (Extent.block height i j).range level := by
  induction h generalizing i j with
  | full => simpa using hkey
  | @«partial» height child kept _ _ ih =>
    obtain ⟨quadrant, hquadrant⟩ := (covers_build_partial ..).mp hkey
    have hchild := ne_vacant_of_covers hquadrant
    suffices h : key ∈ ((Extent.block (height + 1) i j).quadrant quadrant).range level from
      Extent.range_quadrant_subset hlevel hheight h
    rw [Extent.quadrant_block] at hquadrant ⊢
    exact ih quadrant hchild (by omega) hquadrant

/-- **In a quarter only the ranges of the quarter hold a key.** -/
theorem covers_quadrant {child : Quadrant → Cover}
    (kept : ∀ quadrant, child quadrant ≠ vacant → Compact height (child quadrant))
    (hheight : height < level) {quadrant : Quadrant} {key : Key}
    (hkey : key ∈ ((Extent.block (height + 1) i j).quadrant quadrant).range level) :
    Covers (ranges level (.block (height + 1) i j) (build .partial child)) key
      ↔ Covers (ranges level ((Extent.block (height + 1) i j).quadrant quadrant)
          (child quadrant)) key := by
  rw [covers_build_partial]
  refine ⟨?_, fun h => ⟨quadrant, h⟩⟩
  rintro ⟨other, hother⟩
  have hchild := ne_vacant_of_covers hother
  have hrange : key ∈ ((Extent.block (height + 1) i j).quadrant other).range level := by
    rw [Extent.quadrant_block] at hother ⊢
    exact (kept other hchild).mem_range_of_covers hlevel hheight.le hother
  rwa [Extent.quadrant_eq_of_mem_range hlevel hheight hkey hrange]

/-- **Settling a block changes no key of a quarter.** -/
theorem covers_settle {child : Quadrant → Cover}
    (h : ∀ quadrant, child quadrant = vacant ∨ Tidy height (child quadrant))
    (hheight : height < level) {quadrant : Quadrant} {key : Key}
    (hkey : key ∈ ((Extent.block (height + 1) i j).quadrant quadrant).range level) :
    Covers (ranges level (.block (height + 1) i j) (settle (build .partial child))) key
      ↔ Covers (ranges level ((Extent.block (height + 1) i j).quadrant quadrant)
          (child quadrant)) key := by
  obtain ⟨hfull, heq⟩ | ⟨hdisjoint, heq⟩ | ⟨-, -, heq⟩ := settle_cases child <;> rw [heq]
  · obtain hvacant | hdisjoint | hcompact := h quadrant
    · exact absurd hvacant (ne_vacant_of_full (hfull quadrant))
    · cases (hdisjoint ▸ hfull quadrant : (leaf .disjoint).status = .full)
    · rw [hcompact.eq_leaf_of_full (hfull quadrant), ranges_leaf_full, ranges_leaf_full]
      exact iff_of_true (covers_cons.mpr (.inl (Extent.range_quadrant_subset hlevel hheight hkey)))
        (covers_cons.mpr (.inl hkey))
  · exact iff_of_false covers_nil (not_covers_of_status (h quadrant) (hdisjoint quadrant) key)
  · have hkept : ∀ quadrant, (child quadrant).pruned ≠ vacant →
        Compact height (child quadrant).pruned := by
      intro quadrant hkept
      obtain ⟨hcompact, hpruned⟩ := compact_pruned (h quadrant) hkept
      rwa [hpruned]
    rw [covers_quadrant hlevel hkept hheight hkey]
    by_cases hstatus : (child quadrant).status = .disjoint
    · rw [pruned, if_pos hstatus]
      exact iff_of_false covers_nil (not_covers_of_status (h quadrant) hstatus key)
    · rw [pruned_of_status_ne hstatus]

/-- **Every block of a compact tree has a covered key.** -/
theorem Compact.exists_covered (h : Compact height cover) (hheight : height ≤ level) (i j : Nat) :
    ∃ key ∈ (Extent.block height i j).range level,
      Covers (ranges level (.block height i j) cover) key := by
  induction h generalizing i j with
  | full =>
    have hstart := Extent.start_mem_range_block hlevel hheight i j
    exact ⟨_, hstart, by simpa using hstart⟩
  | «partial» kept occupied _ ih =>
    obtain ⟨quadrant, hchild⟩ := occupied
    obtain ⟨key, hkey, hcovers⟩ := ih quadrant hchild (by omega)
      (2 * i + quadrant.isEast.toNat) (2 * j + quadrant.isNorth.toNat)
    rw [← Extent.quadrant_block] at hkey hcovers
    exact ⟨key, Extent.range_quadrant_subset hlevel hheight hkey,
      (covers_quadrant hlevel kept hheight hkey).mpr hcovers⟩

/-- **Every block that is not full has a key that is not covered.** -/
theorem Compact.exists_uncovered (h : Compact height cover) (hheight : height ≤ level)
    (hstatus : cover.status ≠ .full) (i j : Nat) :
    ∃ key ∈ (Extent.block height i j).range level,
      ¬ Covers (ranges level (.block height i j) cover) key := by
  induction h generalizing i j with
  | full => exact absurd rfl hstatus
  | @«partial» height child kept _ unfilled ih =>
    obtain ⟨quadrant, hunfilled⟩ := unfilled
    obtain ⟨key, hkey, hcovers⟩ : ∃ key ∈ ((Extent.block (height + 1) i j).quadrant quadrant).range
        level, ¬ Covers (ranges level ((Extent.block (height + 1) i j).quadrant quadrant)
          (child quadrant)) key := by
      rw [Extent.quadrant_block]
      by_cases hchild : child quadrant = vacant
      · rw [hchild, ranges_vacant]
        exact ⟨_, Extent.start_mem_range_block hlevel (by omega) _ _, covers_nil⟩
      · exact ih quadrant hchild (by omega) hunfilled _ _
    exact ⟨key, Extent.range_quadrant_subset hlevel hheight hkey, fun hcovered =>
      hcovers ((covers_quadrant hlevel kept hheight hkey).mp hcovered)⟩

/-- What a compact tree covers in a block that stands in it is what stands there covers. -/
theorem Compact.covers_follow (h : Compact height cover) (hheight : height ≤ level)
    {path : List Quadrant} (hpath : cover.follow path ≠ vacant) {key : Key}
    (hkey : key ∈ ((Extent.block height i j).follow path).range level) :
    Covers (ranges level (.block height i j) cover) key
      ↔ Covers (ranges level ((Extent.block height i j).follow path) (cover.follow path)) key := by
  induction path generalizing height i j cover with
  | nil => rfl
  | cons quadrant path ih =>
    have hlength := (h.follow hpath).1
    cases h with
    | full =>
      rw [follow_cons, child_leaf, follow_vacant] at hpath
      exact absurd rfl hpath
    | @«partial» height child kept =>
      rw [follow_cons, child_build] at hpath
      have hchild := ne_vacant_of_follow hpath
      rw [Extent.follow_cons, Extent.quadrant_block] at hkey
      have hquadrant := Extent.range_follow_subset hlevel (Nat.le_of_succ_le hheight)
        (Nat.le_of_succ_le_succ hlength) hkey
      rw [follow_cons, child_build, Extent.follow_cons, covers_quadrant hlevel kept hheight
        (Extent.quadrant_block height i j quadrant ▸ hquadrant), Extent.quadrant_block]
      exact ih (kept quadrant hchild) (by omega) hpath hkey

/-- **The ranges of a compact tree are apart from one another.** -/
theorem Compact.pairwise_apart (h : Compact height cover) (hheight : height ≤ level) (i j : Nat) :
    (ranges level (.block height i j) cover).Pairwise Apart := by
  induction h generalizing i j with
  | full => exact List.pairwise_singleton ..
  | @«partial» height child kept _ _ ih =>
    have hmem : ∀ {quadrant range key},
        range ∈ ranges level ((Extent.block (height + 1) i j).quadrant quadrant) (child quadrant) →
        key ∈ range → key ∈ ((Extent.block (height + 1) i j).quadrant quadrant).range level := by
      intro quadrant range key hrange hkey
      have hchild := ne_vacant_of_mem_ranges hrange
      rw [Extent.quadrant_block] at hrange ⊢
      exact (kept quadrant hchild).mem_range_of_covers hlevel (by omega) ⟨range, hrange, hkey⟩
    have hnodup : Quadrant.listed.Nodup := by decide
    rw [ranges_build_partial, List.pairwise_flatMap]
    refine ⟨?_, hnodup.imp ?_⟩
    · intro quadrant _
      by_cases hchild : child quadrant = vacant
      · rw [hchild, ranges_vacant]
        exact .nil
      · rw [Extent.quadrant_block]
        exact ih quadrant hchild (by omega) _ _
    · intro p q hne a ha b hb key hkey
      exact hne (Extent.quadrant_eq_of_mem_range hlevel hheight (hmem ha hkey.1) (hmem hb hkey.2))

end Covered

/-! ## The ranges of a tidy tree of the whole grid -/

section Whole

variable {level : Nat} {cover : Cover} (hlevel : level ≤ 31) (h : Tidy level cover)
include hlevel h

/-- A tidy tree selects nothing when it has no range. -/
theorem Tidy.status_disjoint_iff :
    cover.status = .disjoint ↔ ranges level (.whole level) cover = [] := by
  obtain rfl | hcompact := h
  · exact iff_of_true rfl rfl
  · refine iff_of_false hcompact.status_ne_disjoint ?_
    intro hnil
    obtain ⟨key, -, hkey⟩ := hcompact.exists_covered hlevel le_rfl 0 0
    rw [← Extent.whole_eq_block, hnil] at hkey
    exact covers_nil hkey

/-- A tidy tree selects everything when its only range is the run of the whole grid. -/
theorem Tidy.status_full_iff : cover.status = .full
    ↔ ranges level (.whole level) cover = [⟨0, .ofNat (4 ^ level - 1)⟩] := by
  rw [← Extent.range_whole hlevel]
  obtain rfl | hcompact := h
  · exact iff_of_false nofun nofun
  · constructor
    · intro hfull
      rw [hcompact.eq_leaf_of_full hfull, ranges_leaf_full]
    · intro hsingle
      by_contra hstatus
      obtain ⟨key, hkey, huncovered⟩ := hcompact.exists_uncovered hlevel le_rfl hstatus 0 0
      rw [← Extent.whole_eq_block] at hkey huncovered
      rw [hsingle] at huncovered
      exact huncovered (covers_cons.mpr (.inl hkey))

theorem Tidy.pairwise_apart : (ranges level (.whole level) cover).Pairwise Apart := by
  obtain rfl | hcompact := h
  · exact .nil
  · rw [Extent.whole_eq_block]
    exact hcompact.pairwise_apart hlevel le_rfl 0 0

/-- A range of a tidy tree is the run of a block of the grid. -/
theorem Tidy.exists_block_of_mem {range : KeyRange}
    (hrange : range ∈ ranges level (.whole level) cover) :
    range.Ordered ∧ ∃ height extent, Extent.IsBlock height extent ∧ extent.Within level
      ∧ range = extent.range level := by
  obtain rfl | hcompact := h
  · cases hrange
  · obtain ⟨path, hfull, rfl⟩ := (hcompact.mem_ranges_iff ..).mp hrange
    obtain ⟨hlength, -⟩ := hcompact.follow (ne_vacant_of_full hfull)
    obtain ⟨i, j, heq, hwithin⟩ := Extent.exists_follow_whole hlength
    have hstart := Extent.start_mem_range_block hlevel (Nat.sub_le level path.length) i j
    rw [heq]
    exact ⟨UInt64.le_trans hstart.1 hstart.2, _, _, Extent.isBlock_block .., hwithin, rfl⟩

/-- No key past the last cell is covered. -/
theorem Tidy.lt_of_covers {key : Key} (hkey : Covers (ranges level (.whole level) cover) key) :
    key.toNat < 4 ^ level := by
  obtain rfl | hcompact := h
  · exact absurd hkey covers_nil
  · rw [Extent.whole_eq_block] at hkey
    rw [← Extent.mem_range_whole hlevel, Extent.whole_eq_block]
    exact hcompact.mem_range_of_covers hlevel le_rfl hkey

end Whole

end Cover

end ZGrid
