import ZGrid.Proofs.CompactCover
import ZGrid.RangeTree

/-!
# Proofs/TreeRequest — what one request does to a tree

    no region                      error, the same tree
    a region that does not fit     false, the same tree
    a region that fits             true,  the region selected anew in the root

Everything said of a tree after requests goes through these three lines (`respond_of_error`,
`respond_of_not_fits`, `respond_of_fits`); the geometry that makes the regions stays arbitrary.
-/

namespace ZGrid

variable {α : Type} [LT α] [DecidableLT α]

/-- The envelope of the region stays within the box, and the region is not apart from the box. -/
structure Region.Fits (region : Region α) (box : Box α) : Prop where
  /-- The envelope reaches past no side. -/
  within : box.exceededBy region.envelope = false
  /-- Neither the envelope nor the shape misses the box. -/
  meets : region.skips box = false

instance (region : Region α) (box : Box α) : Decidable (region.Fits box) :=
  decidable_of_iff (box.exceededBy region.envelope = false ∧ region.skips box = false)
    ⟨fun ⟨hwithin, hmeets⟩ => ⟨hwithin, hmeets⟩, fun ⟨hwithin, hmeets⟩ => ⟨hwithin, hmeets⟩⟩

/-- The request makes a region that fits the box. -/
def Request.accepted (geometry : Geometry) (bounds : Box Float) (request : Request) : Bool :=
  match request.region geometry with
  | .ok region => decide (region.Fits bounds)
  | .error _ => false

theorem Request.accepted_iff {geometry : Geometry} {bounds : Box Float} {request : Request} :
    request.accepted geometry bounds = true
      ↔ ∃ region, request.region geometry = .ok region ∧ region.Fits bounds := by
  rw [accepted]
  cases request.region geometry <;> simp

namespace RangeTree

section Place

variable [Midpoint α] {tree : RangeTree α} {region : Region α}

theorem place_of_fits (h : region.Fits tree.bounds) : tree.place region
    = (.selected, { tree with root := tree.root.reselect region tree.level tree.bounds }) := by
  rw [place, h.within, h.meets]
  rfl

theorem place_of_not_fits (h : ¬ region.Fits tree.bounds) :
    tree.place region = (.pastGrid, tree) ∨ tree.place region = (.offGrid, tree) := by
  rw [place]
  split
  · exact .inl rfl
  · rename_i hwithin
    split
    · exact .inr rfl
    · rename_i hmeets
      exact absurd ⟨by simpa using hwithin, by simpa using hmeets⟩ h

end Place

variable {geometry : Geometry} {tree : RangeTree Float} {request : Request}

theorem respond_of_error {error : Error} (h : request.region geometry = .error error) :
    (tree.respond geometry request).value = (.error error, tree) := by
  rw [respond, h]
  rfl

theorem respond_of_not_fits {region : Region Float} (h : request.region geometry = .ok region)
    (hfits : ¬ region.Fits tree.bounds) :
    (tree.respond geometry request).value = (.ok false, tree) := by
  obtain hplace | hplace := place_of_not_fits hfits <;> simp only [respond, h, hplace] <;> rfl

theorem respond_of_fits {region : Region Float} (h : request.region geometry = .ok region)
    (hfits : region.Fits tree.bounds) : (tree.respond geometry request).value
      = (.ok true, { tree with root := tree.root.reselect region tree.level tree.bounds }) := by
  simp only [respond, h, place_of_fits hfits]
  rfl

/-- **The outcomes of a request.** -/
theorem respond_cases (geometry : Geometry) (tree : RangeTree Float) (request : Request) :
    (∃ region, request.region geometry = .ok region ∧ region.Fits tree.bounds
      ∧ (tree.respond geometry request).value
        = (.ok true, { tree with root := tree.root.reselect region tree.level tree.bounds }))
    ∨ (∀ region, request.region geometry = .ok region → ¬ region.Fits tree.bounds)
      ∧ (tree.respond geometry request).value.1 ≠ .ok true
      ∧ (tree.respond geometry request).value.2 = tree := by
  cases h : request.region geometry with
  | error error =>
    rw [respond_of_error h]
    exact .inr ⟨nofun, nofun, rfl⟩
  | ok region =>
    by_cases hfits : region.Fits tree.bounds
    · exact .inl ⟨region, rfl, hfits, respond_of_fits h hfits⟩
    · rw [respond_of_not_fits h hfits]
      exact .inr ⟨fun _ hok => Except.ok.inj hok ▸ hfits, nofun, rfl⟩

/-- A tree accepts the requests whose region fits its box. -/
theorem respond_fst_eq_true_iff : (tree.respond geometry request).value.1 = .ok true
    ↔ request.accepted geometry tree.bounds = true := by
  rw [Request.accepted_iff]
  obtain ⟨region, hregion, hfits, heq⟩ | ⟨hnone, hne, -⟩ := respond_cases geometry tree request
  · rw [heq]
    exact ⟨fun _ => ⟨region, hregion, hfits⟩, fun _ => rfl⟩
  · refine iff_of_false hne ?_
    rintro ⟨region, hregion, hfits⟩
    exact hnone region hregion hfits

/-- An accepted request has selected its region. -/
theorem exists_fits_of_accepted {after : RangeTree Float}
    (h : (tree.respond geometry request).value = (.ok true, after)) :
    ∃ region, request.region geometry = .ok region ∧ region.Fits tree.bounds
      ∧ after = { tree with root := tree.root.reselect region tree.level tree.bounds } := by
  obtain ⟨region, hregion, hfits, heq⟩ | ⟨-, hne, -⟩ := respond_cases geometry tree request
  · exact ⟨region, hregion, hfits, (congrArg Prod.snd (heq.symm.trans h)).symm⟩
  · exact absurd (congrArg Prod.fst h) hne

/-- The tree that answers an accepted request. -/
theorem exists_of_accepted {bounds : Box Float} (level : Nat)
    (h : request.accepted geometry bounds = true) :
    ∃ after, ((empty bounds level).respond geometry request).value = (.ok true, after) :=
  ⟨_, Prod.ext (respond_fst_eq_true_iff.mpr h) rfl⟩

end RangeTree

/-! ## The first region in a tree -/

/-- In a grid with no cell selected, selecting anew is selecting. -/
theorem Cover.reselect_leaf [Midpoint α] (region : Region α) (height : Nat) (box : Box α)
    (status : Status) : reselect region height box (leaf status) = select region height box := by
  have hchild : (leaf status).child = fun _ => vacant := funext (child_leaf status)
  cases height with
  | zero =>
    rw [reselect, select, hchild]
    rfl
  | succ height =>
    rw [reselect, select, hchild]
    rfl

theorem RangeTree.exists_select_of_accepted {geometry : Geometry} {bounds : Box Float}
    {level : Nat} {request : Request} {tree : RangeTree Float}
    (h : ((empty bounds level).respond geometry request).value = (.ok true, tree)) :
    ∃ region, request.region geometry = .ok region ∧ region.Fits bounds
      ∧ tree = ⟨bounds, level, Cover.select region level bounds⟩ := by
  obtain ⟨region, hregion, hfits, rfl⟩ := exists_fits_of_accepted h
  exact ⟨region, hregion, hfits, by rw [empty, Cover.reselect_leaf]⟩

end ZGrid
