import Mathlib.Data.List.Chain
import ZGrid.KeyRange.Merge

/-!
# Proofs/MergedRanges — what sorting and merging keep

A list of ranges **covers** the keys of its ranges.  Sorting and merging keep the covered keys, and
afterwards at least one key is missing between neighbours:

```
   ranges  ──sort──▸  ascending starts  ──merge──▸  stop + 1 < next start
             the same keys              the same keys
```

`mergeInto` is followed from the front: the range that may still grow is the first one of the list
that is left.
-/

namespace ZGrid.KeyRange

/-- Some range of the list holds the key. -/
def Covers (ranges : List KeyRange) (key : Key) : Prop := ∃ range ∈ ranges, key ∈ range

/-- At least one key is missing between the first range and the second. -/
def Separated (former next : KeyRange) : Prop := former.stop.toNat + 1 < next.start.toNat

/-- The starts do not descend. -/
def Ascending (former next : KeyRange) : Prop := former.start ≤ next.start

section Covers

variable {range : KeyRange} {ranges rest : List KeyRange} {key : Key}

@[simp] theorem covers_nil : ¬ Covers [] key := by rintro ⟨_, h, _⟩; cases h

@[simp] theorem covers_cons : Covers (range :: rest) key ↔ key ∈ range ∨ Covers rest key := by
  simp [Covers]

/-- Membership over the naturals. -/
theorem mem_iff_toNat : key ∈ range ↔
    range.start.toNat ≤ key.toNat ∧ key.toNat ≤ range.stop.toNat := by
  rw [mem_def, UInt64.le_iff_toNat_le, UInt64.le_iff_toNat_le]

end Covers

/-! ## Sorting -/

theorem mem_sortAscending {range : KeyRange} {ranges : List KeyRange} :
    range ∈ sortAscending ranges ↔ range ∈ ranges := List.mem_mergeSort

theorem pairwise_sortAscending (ranges : List KeyRange) :
    (sortAscending ranges).Pairwise Ascending := by
  have hsorted : (sortAscending ranges).Pairwise fun a b => decide (a.start ≤ b.start) = true :=
    List.pairwise_mergeSort (fun a b c => by simpa using UInt64.le_trans)
      (fun a b => by simpa using UInt64.le_total ..) ranges
  exact hsorted.imp of_decide_eq_true

/-! ## Merging -/

theorem touches_iff {current next : KeyRange} :
    touches current next = true ↔ next.start.toNat ≤ current.stop.toNat + 1 := decide_eq_true_iff

theorem toNat_stop_fuse (current next : KeyRange) :
    (fuse current next).stop.toNat = max current.stop.toNat next.stop.toNat := by
  change (max current.stop next.stop).toNat = _
  rw [UInt64.max_def]
  split <;> rename_i h <;> rw [UInt64.le_iff_toNat_le] at h <;> omega

/-- Two ranges that touch hold the same keys as their fusion. -/
theorem mem_fuse {current next : KeyRange} {key : Key} (htouch : touches current next = true)
    (horder : Ascending current next) :
    key ∈ fuse current next ↔ key ∈ current ∨ key ∈ next := by
  rw [touches_iff] at htouch
  rw [Ascending, UInt64.le_iff_toNat_le] at horder
  rw [mem_iff_toNat, mem_iff_toNat, mem_iff_toNat, toNat_stop_fuse]
  change current.start.toNat ≤ _ ∧ _ ↔ _
  omega

/-- **Merging keeps the covered keys.**  The induction is on the ranges that are left, for every
range that may still grow. -/
theorem covers_mergeInto (current : KeyRange) (rest : List KeyRange)
    (hsorted : (current :: rest).Pairwise Ascending) (key : Key) :
    Covers (mergeInto current rest) key ↔ Covers (current :: rest) key := by
  induction rest generalizing current with
  | nil => rfl
  | cons next rest ih =>
    obtain ⟨hcurrent, hrest⟩ := List.pairwise_cons.mp hsorted
    rw [mergeInto]
    split
    · rename_i htouch
      have hfused : (fuse current next :: rest).Pairwise Ascending :=
        List.pairwise_cons.mpr ⟨fun range h => hcurrent range (List.mem_cons_of_mem _ h),
          (List.pairwise_cons.mp hrest).2⟩
      rw [ih _ hfused, covers_cons, covers_cons, covers_cons,
        mem_fuse htouch (hcurrent next List.mem_cons_self), or_assoc]
    · rw [covers_cons, ih next hrest, ← covers_cons]

/-- The merged list starts where the growing range does. -/
theorem exists_mergeInto_eq_cons (current : KeyRange) (rest : List KeyRange) :
    ∃ first others, mergeInto current rest = first :: others ∧ first.start = current.start := by
  induction rest generalizing current with
  | nil => exact ⟨current, [], rfl, rfl⟩
  | cons next rest ih =>
    rw [mergeInto]
    split
    · exact ih (fuse current next)
    · exact ⟨current, _, rfl, rfl⟩

/-- **After merging a key is missing between neighbours.** -/
theorem isChain_mergeInto (current : KeyRange) (rest : List KeyRange) :
    (mergeInto current rest).IsChain Separated := by
  induction rest generalizing current with
  | nil => exact List.isChain_singleton _
  | cons next rest ih =>
    rw [mergeInto]
    split
    · exact ih _
    · rename_i hgap
      obtain ⟨first, others, heq, hstart⟩ := exists_mergeInto_eq_cons next rest
      have hchain := ih next
      rw [touches_iff] at hgap
      rw [heq] at hchain ⊢
      refine List.isChain_cons_cons.mpr ⟨?_, hchain⟩
      rw [Separated, hstart]
      omega

/-- Merging keeps the ends of each range in order. -/
theorem ordered_mergeInto (current : KeyRange) (rest : List KeyRange)
    (h : ∀ range ∈ current :: rest, range.Ordered) :
    ∀ range ∈ mergeInto current rest, range.Ordered := by
  induction rest generalizing current with
  | nil => exact h
  | cons next rest ih =>
    rw [mergeInto]
    split
    · refine ih _ ?_
      intro range hmem
      obtain rfl | hmem := List.mem_cons.mp hmem
      · have hfirst := UInt64.le_iff_toNat_le.mp (h current List.mem_cons_self)
        refine UInt64.le_iff_toNat_le.mpr ?_
        rw [toNat_stop_fuse]
        exact hfirst.trans (le_max_left ..)
      · exact h range (List.mem_cons_of_mem _ (List.mem_cons_of_mem _ hmem))
    · intro range hmem
      obtain rfl | hmem := List.mem_cons.mp hmem
      · exact h range List.mem_cons_self
      · exact ih next (fun range h' => h range (List.mem_cons_of_mem _ h')) range hmem

/-! ## Sorting and merging -/

theorem covers_merged (ranges : List KeyRange) (key : Key) :
    Covers (mergeAdjacent (sortAscending ranges)) key ↔ Covers ranges key := by
  have hkeys : Covers (sortAscending ranges) key ↔ Covers ranges key := by
    simp only [Covers, mem_sortAscending]
  have hsorted := pairwise_sortAscending ranges
  rw [← hkeys]
  cases h : sortAscending ranges with
  | nil => rfl
  | cons first rest => exact covers_mergeInto first rest (h ▸ hsorted) key

theorem isChain_mergeAdjacent (ranges : List KeyRange) :
    (mergeAdjacent ranges).IsChain Separated := by
  cases ranges with
  | nil => exact List.isChain_nil
  | cons first rest => exact isChain_mergeInto first rest

theorem ordered_merged {ranges : List KeyRange} (h : ∀ range ∈ ranges, range.Ordered) :
    ∀ range ∈ mergeAdjacent (sortAscending ranges), range.Ordered := by
  have hsort : ∀ range ∈ sortAscending ranges, range.Ordered := fun range hmem =>
    h range (mem_sortAscending.mp hmem)
  cases heq : sortAscending ranges with
  | nil => simp
  | cons first rest => exact ordered_mergeInto first rest (heq ▸ hsort)

end ZGrid.KeyRange
