import ZGrid.Cover
import ZGrid.Proofs.AlignedBlock
import ZGrid.Proofs.MergedRanges

/-!
# Proofs/CompactCover — a tree of blocks without a superfluous one

A tree is **compact** when every block in it selects a cell and no block is split in vain: a full
block has no quarters, and a partial one has some, but not four full ones.

    region ──select──▸ compact, or no cell at all

Settling a block looks at its quarters once (`settle_cases`), and so one lemma carries compactness
from the quarters to the block (`tidy_settle`), whatever put the quarters there.
-/

namespace ZGrid

namespace Cover

/-! ## Settling -/

theorem pruned_of_status_ne {cover : Cover} (h : cover.status ≠ .disjoint) :
    cover.pruned = cover := if_neg h

/-- **The three outcomes of settling a block.** -/
theorem settle_cases (child : Quadrant → Cover) :
    (∀ quadrant, (child quadrant).status = .full) ∧ settle (build .partial child) = leaf .full
    ∨ (∀ quadrant, (child quadrant).status = .disjoint)
        ∧ settle (build .partial child) = leaf .disjoint
    ∨ (∃ quadrant, (child quadrant).status ≠ .full)
        ∧ (∃ quadrant, (child quadrant).status ≠ .disjoint)
        ∧ settle (build .partial child)
          = build .partial fun quadrant => (child quadrant).pruned := by
  have hall : ∀ status, (Quadrant.all.all fun quadrant =>
      ((build .partial child).child quadrant).status = status) = true
        ↔ ∀ quadrant, (child quadrant).status = status := by
    intro status
    simp [List.all_eq_true, Quadrant.mem_all]
  rw [settle]
  split
  · rename_i hfull
    exact .inl ⟨(hall _).mp hfull, rfl⟩
  · rename_i hfull
    split
    · rename_i hdisjoint
      exact .inr (.inl ⟨(hall _).mp hdisjoint, rfl⟩)
    · rename_i hdisjoint
      rw [hall, not_forall] at hfull hdisjoint
      exact .inr (.inr ⟨hfull, hdisjoint, by simp only [child_build]⟩)

/-! ## Compact trees -/

/-- A tree of `2 ^ height` rows and columns in which every block selects a cell and none is split
in vain. -/
inductive Compact : (height : Nat) → Cover → Prop
  /-- A full block is not split. -/
  | full (height : Nat) : Compact height (leaf .full)
  /-- A partial block has a quarter, and one that is not full. -/
  | «partial» {height : Nat} {child : Quadrant → Cover}
      (kept : ∀ quadrant, child quadrant ≠ vacant → Compact height (child quadrant))
      (occupied : ∃ quadrant, child quadrant ≠ vacant)
      (unfilled : ∃ quadrant, (child quadrant).status ≠ .full) :
      Compact (height + 1) (build .partial child)

/-- A compact tree, or a block that selects nothing. -/
def Tidy (height : Nat) (cover : Cover) : Prop := cover = leaf .disjoint ∨ Compact height cover

variable {height : Nat} {cover : Cover}

theorem Compact.status_ne_disjoint (h : Compact height cover) : cover.status ≠ .disjoint := by
  cases h <;> simp

theorem Compact.eq_leaf_of_full (h : Compact height cover) (hfull : cover.status = .full) :
    cover = leaf .full := by
  cases h with
  | full => rfl
  | «partial» => cases hfull

/-- A quarter that is kept is compact as it stands. -/
theorem compact_pruned (h : cover = vacant ∨ Tidy height cover) (hkept : cover.pruned ≠ vacant) :
    Compact height cover ∧ cover.pruned = cover := by
  obtain rfl | rfl | hcompact := h
  · exact absurd rfl hkept
  · exact absurd rfl hkept
  · exact ⟨hcompact, pruned_of_status_ne hcompact.status_ne_disjoint⟩

/-- **Settling makes a tree tidy**, if the quarters are. -/
theorem tidy_settle {child : Quadrant → Cover}
    (h : ∀ quadrant, child quadrant = vacant ∨ Tidy height (child quadrant)) :
    Tidy (height + 1) (settle (build .partial child)) := by
  obtain ⟨-, heq⟩ | ⟨-, heq⟩ | ⟨⟨unfilled, hunfilled⟩, ⟨occupied, hoccupied⟩, heq⟩ :=
    settle_cases child <;> rw [heq]
  · exact .inr (.full _)
  · exact .inl rfl
  · refine .inr (.partial ?_ ⟨occupied, ?_⟩ ⟨unfilled, ?_⟩)
    · intro quadrant hkept
      obtain ⟨hcompact, hpruned⟩ := compact_pruned (h quadrant) hkept
      rwa [hpruned]
    · intro hvacant
      rw [pruned_of_status_ne hoccupied] at hvacant
      exact hoccupied (hvacant ▸ rfl)
    · intro hfull
      have hkept : (child unfilled).pruned ≠ vacant := by
        intro hvacant
        rw [hvacant] at hfull
        cases hfull
      rw [(compact_pruned (h unfilled) hkept).2] at hfull
      exact hunfilled hfull

/-! ## Selecting -/

section Select

variable {α : Type} [LT α] [DecidableLT α] [Midpoint α]

/-- The quarters of a box that is not covered, before they are settled: what the region selects, and
the former ones where it skips. -/
def pieces (region : Region α) (height : Nat) (box : Box α) (former : Quadrant → Cover)
    (quadrant : Quadrant) : Cover :=
  if region.skips (box.quadrant quadrant) then former quadrant
  else select region height (box.quadrant quadrant)

variable {region : Region α} {box : Box α} {former : Quadrant → Cover} {quadrant : Quadrant}

theorem pieces_of_skips (h : region.skips (box.quadrant quadrant) = true) :
    pieces region height box former quadrant = former quadrant := if_pos h

theorem pieces_of_not_skips (h : region.skips (box.quadrant quadrant) = false) :
    pieces region height box former quadrant = select region height (box.quadrant quadrant) := by
  rw [pieces, h]
  rfl

theorem select_of_covers (h : region.covers box = true) :
    select region (height + 1) box = leaf .full := if_pos h

theorem select_of_not_covers (h : region.covers box = false) : select region (height + 1) box
    = settle (build .partial (pieces region height box fun _ => vacant)) := by
  rw [select, h]
  rfl

theorem reselect_of_covers (h : region.covers box = true) :
    reselect region (height + 1) box cover = build .full cover.child := if_pos h

theorem reselect_of_not_covers (h : region.covers box = false) :
    reselect region (height + 1) box cover
      = settle (build .partial (pieces region height box cover.child)) := by
  rw [reselect, h]
  rfl

/-- **What a region selects is a tidy tree.** -/
theorem tidy_select (region : Region α) (height : Nat) (box : Box α) :
    Tidy height (select region height box) := by
  induction height generalizing box with
  | zero =>
    rw [select]
    split
    · exact .inr (.full 0)
    · exact .inl rfl
  | succ height ih =>
    cases hcovers : region.covers box with
    | true =>
      rw [select_of_covers hcovers]
      exact .inr (.full _)
    | false =>
      rw [select_of_not_covers hcovers]
      refine tidy_settle ?_
      intro quadrant
      rw [pieces]
      split
      · exact .inl rfl
      · exact .inr (ih _)

/-- The quarters are tidy before they are settled, if the former ones are. -/
theorem tidy_pieces (h : ∀ quadrant, former quadrant = vacant ∨ Tidy height (former quadrant))
    (quadrant : Quadrant) : pieces region height box former quadrant = vacant
      ∨ Tidy height (pieces region height box former quadrant) := by
  rw [pieces]
  split
  · exact h quadrant
  · exact .inr (tidy_select ..)

end Select

/-! ## Going down -/

theorem ne_vacant_of_full (h : cover.status = .full) : cover ≠ vacant := by
  rintro rfl
  cases h

/-- Below a vacant place nothing stands. -/
theorem ne_vacant_of_follow {path : List Quadrant} (h : cover.follow path ≠ vacant) :
    cover ≠ vacant := by
  rintro rfl
  exact h (follow_vacant path)

/-- What stands in a compact tree is compact, and no deeper than the cells. -/
theorem Compact.follow (h : Compact height cover) {path : List Quadrant}
    (hpath : cover.follow path ≠ vacant) :
    path.length ≤ height ∧ Compact (height - path.length) (cover.follow path) := by
  induction path generalizing height cover with
  | nil => exact ⟨Nat.zero_le _, h⟩
  | cons quadrant path ih =>
    rw [follow_cons] at hpath ⊢
    cases h with
    | full =>
      rw [child_leaf, follow_vacant] at hpath
      exact absurd rfl hpath
    | @«partial» _ child kept =>
      rw [child_build] at hpath ⊢
      obtain ⟨hlength, hcompact⟩ := ih (kept quadrant (ne_vacant_of_follow hpath)) hpath
      exact ⟨Nat.succ_le_succ hlength, by rwa [List.length_cons, Nat.add_sub_add_right]⟩

end Cover

end ZGrid
