import ZGrid.Proofs.CoverRanges
import ZGrid.Proofs.TreeRequest

/-!
# Proofs/TreeReuse — one tree for many requests

A request writes the quarters of the root that its region does not skip, and leaves the others to
what was there:

    former      NW  a    NE  b    SW  ·    SE  c
    region      NW skip  NE  b'   SW  d'   SE skip
    after       NW  a    NE  b'   SW  d'   SE  c

A region that covers the whole box makes the root full and leaves all four quarters standing below
it, so such a tree is not compact.  Its ranges are those of one that is (`Reused.exists_tidy`), and
the quarters come to light again with the next region.  Hence two statements: what the ranges are
after any requests (`Coherent`), and which request a quarter of the root stems from.
-/

namespace ZGrid

open KeyRange

namespace Cover

variable {α : Type} [LT α] [DecidableLT α] [Midpoint α] {height : Nat} {cover : Cover}

/-! ## The trees that requests leave behind -/

/-- A tidy tree, or a full block over the quarters of a former one. -/
inductive Reused : (height : Nat) → Cover → Prop
  /-- The last region that wrote the root left a tidy tree. -/
  | tidy {height : Nat} {cover : Cover} (tidy : Tidy height cover) : Reused height cover
  /-- The last one covered the box. -/
  | covered {height : Nat} {child : Quadrant → Cover}
      (kept : ∀ quadrant, child quadrant ≠ vacant → Compact height (child quadrant)) :
      Reused (height + 1) (build .full child)

/-- A single cell has no quarters. -/
theorem Reused.child_zero (h : Reused 0 cover) (quadrant : Quadrant) :
    cover.child quadrant = vacant := by
  cases h with
  | tidy htidy =>
    obtain rfl | hcompact := htidy
    · exact child_leaf ..
    · cases hcompact
      exact child_leaf ..

/-- The quarters that stand are compact. -/
theorem Reused.kept (h : Reused (height + 1) cover) {quadrant : Quadrant}
    (hchild : cover.child quadrant ≠ vacant) : Compact height (cover.child quadrant) := by
  cases h with
  | tidy htidy =>
    obtain rfl | hcompact := htidy
    · exact absurd (child_leaf ..) hchild
    · cases hcompact with
      | full => exact absurd (child_leaf ..) hchild
      | «partial» kept =>
        rw [child_build] at hchild ⊢
        exact kept quadrant hchild
  | covered kept =>
    rw [child_build] at hchild ⊢
    exact kept quadrant hchild

/-- **Selecting a region anew keeps to these trees.** -/
theorem Reused.reselect (h : Reused height cover) (region : Region α) (box : Box α) :
    Reused height (reselect region height box cover) := by
  cases height with
  | zero =>
    have hchild : cover.child = fun _ => vacant := funext h.child_zero
    rw [Cover.reselect, hchild]
    split
    · exact .tidy (.inr (.full 0))
    · exact .tidy (.inl rfl)
  | succ height =>
    have hformer : ∀ quadrant,
        cover.child quadrant = vacant ∨ Tidy height (cover.child quadrant) := by
      intro quadrant
      by_cases hchild : cover.child quadrant = vacant
      · exact .inl hchild
      · exact .inr (.inr (h.kept hchild))
    cases hcovers : region.covers box with
    | true =>
      rw [reselect_of_covers hcovers]
      exact .covered fun quadrant hchild => h.kept hchild
    | false =>
      rw [reselect_of_not_covers hcovers]
      exact .tidy (tidy_settle (tidy_pieces hformer))

/-- Such a tree has the status and the ranges of a tidy one. -/
theorem Reused.exists_tidy (h : Reused height cover) : ∃ other, Tidy height other
    ∧ cover.status = other.status
    ∧ ∀ level extent, ranges level extent cover = ranges level extent other := by
  cases h with
  | tidy htidy => exact ⟨cover, htidy, rfl, fun _ _ => rfl⟩
  | covered => exact ⟨leaf .full, .inr (.full _), rfl, fun _ _ => rfl⟩

/-! ## The quarters after a region -/

/-- A quarter that stands after settling stood there before, and selects a cell. -/
theorem child_settle {child : Quadrant → Cover} {quadrant : Quadrant}
    (h : (settle (build .partial child)).child quadrant ≠ vacant) :
    (child quadrant).status ≠ .disjoint
      ∧ (settle (build .partial child)).child quadrant = child quadrant := by
  obtain ⟨-, heq⟩ | ⟨-, heq⟩ | ⟨-, -, heq⟩ := settle_cases child <;> rw [heq] at h ⊢
  · exact absurd (child_leaf ..) h
  · exact absurd (child_leaf ..) h
  · rw [child_build] at h ⊢
    have hstatus : (child quadrant).status ≠ .disjoint := fun hdisjoint => h (if_pos hdisjoint)
    exact ⟨hstatus, pruned_of_status_ne hstatus⟩

variable {region : Region α} {box : Box α} {quadrant : Quadrant}

/-- A region that covers the box leaves the quarters as they are. -/
theorem child_reselect_of_covers (h : region.covers box = true) :
    (reselect region (height + 1) box cover).child quadrant = cover.child quadrant := by
  rw [reselect_of_covers h, child_build]

/-- A quarter that the region skips is what it was, if it still stands. -/
theorem child_reselect_of_skips (hcovers : region.covers box = false)
    (hskips : region.skips (box.quadrant quadrant) = true)
    (hchild : (reselect region (height + 1) box cover).child quadrant ≠ vacant) :
    (reselect region (height + 1) box cover).child quadrant = cover.child quadrant := by
  rw [reselect_of_not_covers hcovers] at hchild ⊢
  rw [(child_settle hchild).2, pieces_of_skips hskips]

/-- **A quarter that the region does not skip is what the region selects there by itself.**  Had
the region alone filled all four quarters, it would have skipped none, and nothing of the former
tree would have been left to stand. -/
theorem child_reselect_of_not_skips (hcovers : region.covers box = false)
    (hskips : region.skips (box.quadrant quadrant) = false)
    (hchild : (reselect region (height + 1) box cover).child quadrant ≠ vacant) :
    (reselect region (height + 1) box cover).child quadrant
      = (select region (height + 1) box).child quadrant := by
  rw [reselect_of_not_covers hcovers] at hchild ⊢
  obtain ⟨hstatus, hkept⟩ := child_settle hchild
  rw [pieces_of_not_skips hskips] at hstatus hkept
  rw [hkept, select_of_not_covers hcovers]
  obtain ⟨hfull, heq⟩ | ⟨hdisjoint, -⟩ | ⟨-, -, heq⟩ :=
    settle_cases (pieces region height box fun _ => vacant)
  · have hsame :
        pieces region height box cover.child = pieces region height box fun _ => vacant := by
      funext other
      have hother := hfull other
      rw [pieces] at hother
      split at hother
      · cases hother
      · rename_i hnot
        rw [pieces, pieces, if_neg hnot, if_neg hnot]
    rw [hsame, heq] at hchild
    exact absurd (child_leaf ..) hchild
  · have hnone := hdisjoint quadrant
    rw [pieces_of_not_skips hskips] at hnone
    exact absurd hnone hstatus
  · rw [heq, child_build, pieces_of_not_skips hskips, pruned_of_status_ne hstatus]

end Cover

namespace RangeTree

/-! ## The ranges of a tree after requests -/

/-- The ranges of a tree and the status of its root tell the same. -/
structure Coherent {α : Type} (tree : RangeTree α) : Prop where
  /-- No key lies in two full blocks. -/
  apart : tree.blockRanges.Pairwise Apart
  /-- The range of a full block is the run of an aligned square of the grid. -/
  aligned : ∀ range ∈ tree.blockRanges, ∃ height extent,
    Extent.IsBlock height extent ∧ extent.Within tree.level ∧ range = extent.range tree.level
  /-- A key is missing between one merged range and the next. -/
  separated : tree.ranges.IsChain Separated
  /-- The merged ranges have their ends in order… -/
  ordered : ∀ range ∈ tree.ranges, range.Ordered
  /-- …and end within the grid. -/
  stop_le : ∀ range ∈ tree.ranges, range.stop.toNat ≤ 4 ^ tree.level - 1
  /-- The root is disjoint when there is no full block. -/
  disjoint_iff : tree.status = .disjoint ↔ tree.blockRanges = []
  /-- The root is full when the whole grid is one range. -/
  full_iff : tree.status = .full ↔ tree.blockRanges = [⟨0, .ofNat (4 ^ tree.level - 1)⟩]

theorem coherent_of_reused {α : Type} {tree : RangeTree α} (hlevel : tree.level ≤ 31)
    (h : Cover.Reused tree.level tree.root) : tree.Coherent := by
  obtain ⟨other, htidy, hstatus, hranges⟩ := h.exists_tidy
  have hblocks : tree.blockRanges = Cover.ranges tree.level (.whole tree.level) other := hranges ..
  have hordered : ∀ range ∈ tree.ranges, range.Ordered := ordered_merged fun range hrange =>
    (htidy.exists_block_of_mem hlevel (hblocks ▸ hrange)).1
  refine ⟨?_, ?_, isChain_mergeAdjacent _, hordered, ?_, ?_, ?_⟩
  · rw [hblocks]
    exact htidy.pairwise_apart hlevel
  · intro range hrange
    rw [hblocks] at hrange
    exact (htidy.exists_block_of_mem hlevel hrange).2
  · intro range hrange
    have hstop : Covers tree.ranges range.stop :=
      ⟨range, hrange, hordered range hrange, UInt64.le_refl _⟩
    rw [ranges, covers_merged, hblocks] at hstop
    exact Nat.le_sub_one_of_lt (htidy.lt_of_covers hlevel hstop)
  · rw [hblocks, status, hstatus]
    exact htidy.status_disjoint_iff hlevel
  · rw [hblocks, status, hstatus]
    exact htidy.status_full_iff hlevel

/-! ## Runs of requests -/

theorem run_concat (geometry : Geometry) (tree : RangeTree Float) (requests : List Request)
    (request : Request) : tree.run geometry (requests ++ [request])
      = ((tree.run geometry requests).respond geometry request).value.2 := by
  rw [run, List.foldl_append]
  rfl

/-- A request keeps the box and the level, and leaves a tree that requests can leave behind. -/
theorem reused_respond {tree : RangeTree Float} (h : Cover.Reused tree.level tree.root)
    (geometry : Geometry) (request : Request) :
    let after := (tree.respond geometry request).value.2
    after.bounds = tree.bounds ∧ after.level = tree.level
      ∧ Cover.Reused after.level after.root := by
  intro after
  obtain ⟨region, -, -, heq⟩ | ⟨-, -, heq⟩ := respond_cases geometry tree request
  · have hafter : after = _ := congrArg Prod.snd heq
    rw [hafter]
    exact ⟨rfl, rfl, h.reselect region tree.bounds⟩
  · have hafter : after = tree := heq
    rw [hafter]
    exact ⟨rfl, rfl, h⟩

/-- **A run of requests keeps the box and the level, and leaves such a tree too.** -/
theorem reused_run (geometry : Geometry) (bounds : Box Float) (level : Nat)
    (requests : List Request) :
    let tree := (empty bounds level).run geometry requests
    tree.bounds = bounds ∧ tree.level = level ∧ Cover.Reused tree.level tree.root := by
  induction requests using List.reverseRecOn with
  | nil => exact ⟨rfl, rfl, .tidy (.inl rfl)⟩
  | append_singleton requests request ih =>
    obtain ⟨hbounds, hlevel, hreused⟩ := ih
    obtain ⟨hbounds', hlevel', hreused'⟩ := reused_respond hreused geometry request
    rw [run_concat]
    exact ⟨hbounds'.trans hbounds, hlevel'.trans hlevel, hreused'⟩

end RangeTree

/-- The request is accepted, and its region neither covers the box nor skips the quarter. -/
def Request.replaces (geometry : Geometry) (bounds : Box Float) (quadrant : Quadrant)
    (request : Request) : Bool :=
  request.accepted geometry bounds && match request.region geometry with
    | .ok region => !region.covers bounds && !region.skips (bounds.quadrant quadrant)
    | .error _ => false

theorem Request.replaces_eq {geometry : Geometry} {bounds : Box Float} {request : Request}
    {region : Region Float} (h : request.region geometry = .ok region) (hfits : region.Fits bounds)
    (quadrant : Quadrant) : request.replaces geometry bounds quadrant
      = (!region.covers bounds && !region.skips (bounds.quadrant quadrant)) := by
  rw [replaces, accepted_iff.mpr ⟨region, h, hfits⟩, h, Bool.true_and]

theorem Request.replaces_of_not_fits {geometry : Geometry} {bounds : Box Float} {request : Request}
    (h : ∀ region, request.region geometry = .ok region → ¬ region.Fits bounds)
    (quadrant : Quadrant) : request.replaces geometry bounds quadrant = false := by
  have haccepted : request.accepted geometry bounds = false := by
    rw [Bool.eq_false_iff, Ne, accepted_iff]
    rintro ⟨region, hregion, hfits⟩
    exact h region hregion hfits
  rw [replaces, haccepted, Bool.false_and]

namespace RangeTree

/-- **What one request does to a quarter of the root that stands after it.** -/
theorem child_respond {tree : RangeTree Float} (h : Cover.Reused tree.level tree.root)
    (geometry : Geometry) (request : Request) {quadrant : Quadrant}
    (hchild : (tree.respond geometry request).value.2.root.child quadrant ≠ .vacant) :
    request.replaces geometry tree.bounds quadrant = false
        ∧ (tree.respond geometry request).value.2.root.child quadrant = tree.root.child quadrant
      ∨ request.replaces geometry tree.bounds quadrant = true
        ∧ (tree.respond geometry request).value.2.root.child quadrant
          = ((empty tree.bounds tree.level).respond geometry request).value.2.root.child
            quadrant := by
  obtain ⟨region, hregion, hfits, heq⟩ | ⟨hnone, -, heq⟩ := respond_cases geometry tree request
  · have hfresh : ((empty tree.bounds tree.level).respond geometry request).value = _ :=
      respond_of_fits hregion hfits
    rw [Request.replaces_eq hregion hfits]
    rw [heq] at hchild
    rw [heq, hfresh]
    obtain ⟨bounds, level, root⟩ := tree
    dsimp only [empty] at *
    cases level with
    | zero => exact absurd ((h.reselect region bounds).child_zero quadrant) hchild
    | succ height =>
      cases hcovers : region.covers bounds with
      | true => exact .inl ⟨rfl, Cover.child_reselect_of_covers hcovers⟩
      | false =>
        cases hskips : region.skips (bounds.quadrant quadrant) with
        | true => exact .inl ⟨rfl, Cover.child_reselect_of_skips hcovers hskips hchild⟩
        | false =>
          rw [Cover.reselect_leaf]
          exact .inr ⟨rfl, Cover.child_reselect_of_not_skips hcovers hskips hchild⟩
  · rw [heq]
    exact .inl ⟨Request.replaces_of_not_fits hnone quadrant, rfl⟩

/-- **A quarter of the root stems from the last request that replaced it**, and is what this
request puts there in a grid with no cell selected. -/
theorem child_run (geometry : Geometry) (bounds : Box Float) (level : Nat)
    (requests : List Request) {quadrant : Quadrant}
    (h : ((empty bounds level).run geometry requests).root.child quadrant ≠ .vacant) :
    ∃ request, (requests.filter (·.replaces geometry bounds quadrant)).getLast? = some request
      ∧ ((empty bounds level).run geometry requests).root.child quadrant
        = ((empty bounds level).respond geometry request).value.2.root.child quadrant := by
  induction requests using List.reverseRecOn with
  | nil => exact absurd (Cover.child_leaf ..) h
  | append_singleton requests request ih =>
    obtain ⟨hbounds, hlevel, hreused⟩ := reused_run geometry bounds level requests
    rw [run_concat] at h ⊢
    rw [List.filter_append]
    obtain ⟨hreplaces, heq⟩ | ⟨hreplaces, heq⟩ := child_respond hreused geometry request h <;>
      rw [hbounds] at hreplaces <;> rw [heq]
    · rw [heq] at h
      rw [List.filter_cons_of_neg (Bool.not_eq_true _ ▸ hreplaces), List.filter_nil,
        List.append_nil]
      exact ih h
    · rw [hbounds, hlevel, List.filter_cons_of_pos hreplaces, List.filter_nil]
      exact ⟨request, List.getLast?_concat, rfl⟩

/-- **One tree can be used again.**  A request that is not accepted leaves the tree as it is; after
any requests the ranges and the status tell the same; and no quarter of the root mixes two
regions. -/
theorem coherent_unmixed_run (geometry : Geometry) (bounds : Box Float) {level : Nat}
    (hlevel : level ≤ 31) (requests : List Request) :
    let tree := (empty bounds level).run geometry requests
    tree.bounds = bounds ∧ tree.level = level
      ∧ (∀ request, ((tree.respond geometry request).value.1 = .ok true
            ↔ request.accepted geometry bounds = true)
          ∧ ((tree.respond geometry request).value.1 ≠ .ok true →
            (tree.respond geometry request).value.2 = tree))
      ∧ tree.Coherent
      ∧ ∀ quadrant, tree.root.child quadrant ≠ .vacant →
          ∃ request, (requests.filter (·.replaces geometry bounds quadrant)).getLast? = some request
            ∧ tree.root.child quadrant
              = ((empty bounds level).respond geometry request).value.2.root.child quadrant := by
  intro tree
  obtain ⟨hbounds, hlevel', hreused⟩ := reused_run geometry bounds level requests
  refine ⟨hbounds, hlevel', fun request => ⟨?_, ?_⟩,
    coherent_of_reused (hlevel'.trans_le hlevel) hreused, ?_⟩
  · rw [← hbounds]
    exact respond_fst_eq_true_iff
  · intro hrefused
    obtain ⟨region, -, -, heq⟩ | ⟨-, -, heq⟩ := respond_cases geometry tree request
    · exact absurd (congrArg Prod.fst heq) hrefused
    · exact heq
  · intro quadrant h
    exact child_run geometry bounds level requests h

private theorem stands_southEast : (((empty ⟨0.0, 0.0, 4.0, 4.0⟩ 1).run Region.ofPolygon
    [.vertices [⟨0.5, 0.5⟩, ⟨3.0, 1.0⟩, ⟨1.0, 3.5⟩],
      .vertices [⟨0.25, 0.25⟩, ⟨1.75, 0.25⟩, ⟨1.5, 3.5⟩]]).root.child .southEast).isVacant
        = false := by
  decide +kernel

/-- Two triangles, of which the second does not reach the east. -/
theorem coherent_unmixed_run_triangles :
    ∃ requests tree, requests = [.vertices [⟨0.5, 0.5⟩, ⟨3.0, 1.0⟩, ⟨1.0, 3.5⟩],
        .vertices [⟨0.25, 0.25⟩, ⟨1.75, 0.25⟩, ⟨1.5, 3.5⟩]]
      ∧ tree = (empty ⟨0.0, 0.0, 4.0, 4.0⟩ 1).run Region.ofPolygon requests
      ∧ tree.Coherent
      ∧ ∃ request, (requests.filter (·.replaces Region.ofPolygon ⟨0.0, 0.0, 4.0, 4.0⟩
          .southEast)).getLast? = some request
        ∧ tree.root.child .southEast
          = ((empty ⟨0.0, 0.0, 4.0, 4.0⟩ 1).respond Region.ofPolygon request).value.2.root.child
            .southEast := by
  have hstands := stands_southEast
  generalize (⟨0.0, 0.0, 4.0, 4.0⟩ : Box Float) = box at hstands ⊢
  obtain ⟨-, -, -, hcoherent, hchild⟩ :=
    coherent_unmixed_run Region.ofPolygon box (by decide : 1 ≤ 31) _
  obtain ⟨request, hlast, heq⟩ := hchild .southEast fun hvacant => by
    rw [hvacant] at hstands
    cases hstands
  exact ⟨_, _, rfl, rfl, hcoherent, request, hlast, heq⟩

end RangeTree

end ZGrid
