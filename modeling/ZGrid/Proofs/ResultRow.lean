import Mathlib.Data.List.Forall2

/-!
# Proofs/ResultRow — one result for a row of items

A function that may fail is applied to the items of a list one after another:

```
   ok  ok  ok  …  ok      all of their values
   ok  ok  error  …       that error, whatever follows
```
-/

namespace ZGrid

variable {α β ε : Type}

theorem mapM_eq_ok_iff {f : α → Except ε β} {items : List α} {values : List β} :
    items.mapM f = .ok values
      ↔ List.Forall₂ (fun item value => f item = .ok value) items values := by
  induction items generalizing values with
  | nil =>
    rw [List.forall₂_nil_left_iff]
    exact ⟨fun h => (Except.ok.inj h).symm, fun h => h ▸ rfl⟩
  | cons item items ih =>
    rw [List.mapM_cons, List.forall₂_cons_left_iff]
    constructor
    · intro h
      cases hitem : f item with
      | error error =>
        rw [hitem] at h
        cases h
      | ok value =>
        cases hitems : items.mapM f with
        | error error =>
          rw [hitem, hitems] at h
          cases h
        | ok rest =>
          rw [hitem, hitems] at h
          exact ⟨value, rest, rfl, ih.mp hitems, (Except.ok.inj h).symm⟩
    · rintro ⟨value, rest, hitem, hitems, rfl⟩
      rw [hitem, ih.mpr hitems]
      rfl

/-- **The first failure of a row is its failure.** -/
theorem mapM_eq_error_iff {f : α → Except ε β} {items : List α} {error : ε} :
    items.mapM f = .error error ↔ ∃ before item after, items = before ++ item :: after
      ∧ (∀ earlier ∈ before, ∃ value, f earlier = .ok value) ∧ f item = .error error := by
  induction items with
  | nil => simp [pure, Except.pure]
  | cons item items ih =>
    rw [List.mapM_cons]
    constructor
    · intro h
      cases hitem : f item with
      | error fault =>
        rw [hitem] at h
        obtain rfl : fault = error := Except.error.inj h
        exact ⟨[], item, items, rfl, nofun, hitem⟩
      | ok value =>
        cases hitems : items.mapM f with
        | error fault =>
          rw [hitem, hitems] at h
          obtain ⟨before, failing, after, rfl, hbefore, hfailing⟩ := ih.mp (hitems.trans h)
          refine ⟨item :: before, failing, after, rfl, ?_, hfailing⟩
          exact List.forall_mem_cons.mpr ⟨⟨value, hitem⟩, hbefore⟩
        | ok rest =>
          rw [hitem, hitems] at h
          cases h
    · rintro ⟨before, failing, after, heq, hbefore, hfailing⟩
      cases before with
      | nil =>
        obtain ⟨rfl, rfl⟩ := List.cons.inj heq
        rw [hfailing]
        rfl
      | cons earlier before =>
        obtain ⟨rfl, rfl⟩ := List.cons.inj heq
        obtain ⟨⟨value, hvalue⟩, hbefore⟩ := List.forall_mem_cons.mp hbefore
        rw [hvalue, ih.mpr ⟨before, failing, after, rfl, hbefore, hfailing⟩]
        rfl

/-- **The first failure of a row whose items are counted.**  What fails, fails under its number. -/
theorem mapM_zipIdx_eq_error_iff {f : Nat → α → Except ε β} {items : List α} {first : Nat}
    {error : ε} : (items.zipIdx first).mapM (fun item => f item.2 item.1) = .error error
      ↔ ∃ before item after, items = before ++ item :: after
        ∧ (∀ earlier ∈ before.zipIdx first, ∃ value, f earlier.2 earlier.1 = .ok value)
        ∧ f (first + before.length) item = .error error := by
  rw [mapM_eq_error_iff]
  constructor
  · rintro ⟨_, numbered, _, heq, hbefore, hfailing⟩
    obtain ⟨before, rest, rfl, rfl, hrest⟩ := List.zipIdx_eq_append_iff.mp heq
    obtain ⟨item, after, rfl, rfl, rfl⟩ := List.zipIdx_eq_cons_iff.mp hrest.symm
    exact ⟨before, item, after, rfl, hbefore, hfailing⟩
  · rintro ⟨before, item, after, rfl, hbefore, hfailing⟩
    have heq : (before ++ item :: after).zipIdx first = before.zipIdx first
        ++ (item, first + before.length) :: after.zipIdx (first + before.length + 1) := by
      rw [List.zipIdx_append, List.zipIdx_cons]
    exact ⟨_, _, _, heq, hbefore, hfailing⟩

end ZGrid
