import Mathlib.Data.Set.Card
import Mathlib.Order.Interval.Finset.Nat
import ZGrid.Proofs.NormalForm

/-!
# Proofs/KeyCount — the keys of a range set, counted without overflow

Two ranges with a key missing between them share no key, so over a list in normal form the keys of
the ranges add up to the keys that it covers, and no sum on the way is larger:

```
   ranges          [0 ── 3]   [5 ─────── 9]   [12 ── 14]
   keys            4          5               3
   counted so far  4          9               12
```

If a key is missing somewhere, the last of these sums fits 64 bits.  Then so do all the others, and
the machine, whose sums wrap at 64 bits, finds the numbers themselves.
-/

namespace ZGrid

namespace KeyRange

variable {range : KeyRange} {ranges : List KeyRange}

/-- The number of keys of a range, over the naturals. -/
def count (range : KeyRange) : Nat := range.stop.toNat + 1 - range.start.toNat

/-- The numbers of keys of some ranges, added up. -/
def total (ranges : List KeyRange) : Nat := (ranges.map count).sum

@[simp] theorem total_nil : total [] = 0 := rfl

@[simp] theorem total_cons (range : KeyRange) (ranges : List KeyRange) :
    total (range :: ranges) = range.count + total ranges := List.sum_cons

/-! ## Sets of keys -/

theorem finite_keys (keys : Set Key) : keys.Finite :=
  Set.Finite.of_injOn (Set.mapsTo_univ UInt64.toFin keys)
    (fun _ _ _ _ => UInt64.toFin_inj.mp) Set.finite_univ

/-- A range has as many keys as there are numbers between its ends. -/
theorem ncard_mem (range : KeyRange) : {key | key ∈ range}.ncard = range.count := by
  have himage : UInt64.toNat '' {key | key ∈ range}
      = Finset.Icc range.start.toNat range.stop.toNat := by
    ext n
    rw [Finset.coe_Icc]
    constructor
    · rintro ⟨key, hkey, rfl⟩
      exact mem_iff_toNat.mp hkey
    · rintro ⟨hstart, hstop⟩
      have hback : (UInt64.ofNat n).toNat = n :=
        UInt64.toNat_ofNat_of_lt' (hstop.trans_lt range.stop.toNat_lt)
      exact ⟨.ofNat n, mem_iff_toNat.mpr (hback.symm ▸ ⟨hstart, hstop⟩), hback⟩
  have hinj : Function.Injective UInt64.toNat := fun _ _ => UInt64.toNat_inj.mp
  rw [← Set.ncard_image_of_injective _ hinj, himage, Set.ncard_coe_finset, Nat.card_Icc, count]

/-- **The keys of separated ranges add up.** -/
theorem ncard_covers (h : ranges.Pairwise Separated) :
    {key | Covers ranges key}.ncard = total ranges := by
  induction ranges with
  | nil => simp
  | cons first rest ih =>
    obtain ⟨hfirst, hrest⟩ := List.pairwise_cons.mp h
    have hunion : {key | Covers (first :: rest) key}
        = {key | key ∈ first} ∪ {key | Covers rest key} := Set.ext fun _ => covers_cons
    have hdisjoint : Disjoint {key | key ∈ first} {key | Covers rest key} := by
      refine Set.disjoint_left.mpr ?_
      rintro key hkey ⟨holder, hholder, hin⟩
      have hgap := hfirst holder hholder
      have hkey := (mem_iff_toNat.mp hkey).2
      have hin := (mem_iff_toNat.mp hin).1
      rw [Separated] at hgap
      omega
    rw [hunion, Set.ncard_union_eq hdisjoint (finite_keys _) (finite_keys _), ncard_mem, ih hrest,
      total_cons]

/-! ## What the machine counts -/

/-- The size of a range is its number of keys, as long as 64 bits hold that. -/
theorem toNat_size (h : range.Ordered) (hcount : range.count < 2 ^ 64) :
    range.size.toNat = range.count := by
  have horder := UInt64.le_iff_toNat_le.mp h
  rw [count] at hcount ⊢
  rw [size, UInt64.toNat_add, UInt64.toNat_sub_of_le _ _ h, UInt64.toNat_one]
  omega

/-- A sum of sizes is the number of keys, as long as 64 bits hold that.  The induction is on the
ranges that are left, for every sum so far. -/
theorem toNat_foldl_size (h : ∀ range ∈ ranges, range.Ordered) (sum : UInt64)
    (hfits : sum.toNat + total ranges < 2 ^ 64) :
    (ranges.foldl (fun count range => count + range.size) sum).toNat
      = sum.toNat + total ranges := by
  induction ranges generalizing sum with
  | nil => rfl
  | cons first rest ih =>
    rw [total_cons] at hfits ⊢
    have hsize := toNat_size (h first List.mem_cons_self) (by omega)
    have hsum : (sum + first.size).toNat = sum.toNat + first.count := by
      rw [UInt64.toNat_add, hsize]
      exact Nat.mod_eq_of_lt (by omega)
    rw [List.foldl_cons, ih (fun range hmem => h range (List.mem_cons_of_mem _ hmem)) _ (by omega),
      hsum, Nat.add_assoc]

theorem total_le_of_isPrefix {front : List KeyRange} (h : front <+: ranges) :
    total front ≤ total ranges := by
  obtain ⟨back, rfl⟩ := h
  rw [total, total, List.map_append, List.sum_append]
  exact Nat.le_add_right ..

end KeyRange

namespace RangeSet

open KeyRange

variable {ranges : List KeyRange}

/-- The ranges of a set that is made of a list have as many keys as the list covers. -/
theorem total_ofList (h : ∀ range ∈ ranges, range.Ordered) :
    total (ofList ranges).toList = {key | Covers ranges key}.ncard := by
  rw [← ncard_covers (normal_ofList h).pairwise]
  simp only [covers_ofList]

/-- **The key count is the number of keys**, for any list of ranges that leaves a key out.  Keys in
several ranges of the list are counted once.  No size of a range and no sum on the way is larger
than 64 bits hold, so each is the number of keys counted so far. -/
theorem keyCount_exact (h : ∀ range ∈ ranges, range.Ordered)
    (hfew : {key | Covers ranges key}.ncard ≤ 2 ^ 64 - 1) :
    (ofList ranges).keyCount.toNat = {key | Covers ranges key}.ncard
      ∧ (∀ range, range ∈ ranges ∨ range ∈ (ofList ranges).toList →
          range.count ≤ 2 ^ 64 - 1 ∧ range.size.toNat = range.count)
      ∧ ∀ front : List KeyRange, front <+: (ofList ranges).toList →
          total front ≤ 2 ^ 64 - 1
            ∧ (front.foldl (fun count range => count + range.size) (0 : UInt64)).toNat
              = total front := by
  have hordered := (normal_ofList h).ordered
  have hfront : ∀ front : List KeyRange, front <+: (ofList ranges).toList →
      total front ≤ 2 ^ 64 - 1
        ∧ (front.foldl (fun count range => count + range.size) (0 : UInt64)).toNat
          = total front := by
    intro front hfirst
    have hsum := (total_le_of_isPrefix hfirst).trans ((total_ofList h).trans_le hfew)
    have hfold := toNat_foldl_size (fun range hmem => hordered range (hfirst.subset hmem)) 0
      (by rw [UInt64.toNat_zero]; omega)
    exact ⟨hsum, hfold.trans (Nat.zero_add _)⟩
  refine ⟨?_, fun range hmem => ?_, hfront⟩
  · rw [keyCount, ← Array.foldl_toList, ← total_ofList h]
    exact (hfront _ List.prefix_rfl).2
  · have hcovered : {key | key ∈ range} ⊆ {key | Covers ranges key} := by
      intro key hkey
      obtain hmem | hmem := hmem
      · exact ⟨range, hmem, hkey⟩
      · exact (covers_ofList ranges key).mp ⟨range, hmem, hkey⟩
    have hcount : range.count ≤ 2 ^ 64 - 1 :=
      (ncard_mem range).symm.trans_le ((Set.ncard_le_ncard hcovered (finite_keys _)).trans hfew)
    exact ⟨hcount, toNat_size (hmem.elim (h range) (hordered range)) (by omega)⟩

/-- All keys but one, most of them in several ranges. -/
theorem keyCount_exact_all_but_one :
    let ranges : List KeyRange :=
      [⟨9, 18446744073709551615⟩, ⟨2, 3⟩, ⟨0, 3⟩, ⟨5, 8⟩, ⟨7, 4294967296⟩]
    (∀ range ∈ ranges, range.Ordered)
      ∧ {key | Covers ranges key}.ncard ≤ 2 ^ 64 - 1
      ∧ (ofList ranges).keyCount = 18446744073709551615 := by
  intro ranges
  have hordered : ∀ range ∈ ranges, range.Ordered := by decide
  have hkeys : ∀ key, Covers ranges key ↔ Covers [⟨0, 3⟩, ⟨5, 18446744073709551615⟩] key := by
    intro key
    simp only [ranges, covers_cons, covers_nil, mem_iff_toNat, UInt64.toNat_ofNat, or_false]
    omega
  have hcard : {key | Covers ranges key}.ncard = 2 ^ 64 - 1 := by
    simp only [hkeys]
    exact ncard_covers (List.pairwise_pair.mpr (by rw [Separated]; decide))
  have hcount := (keyCount_exact hordered hcard.le).1
  exact ⟨hordered, hcard.le, UInt64.toNat_inj.mp (hcount.trans hcard)⟩

end RangeSet

end ZGrid
