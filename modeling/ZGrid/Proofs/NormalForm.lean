import Mathlib.Data.List.Perm.Subperm
import Mathlib.Data.List.Sort
import ZGrid.Proofs.MergedRanges
import ZGrid.RangeSet

/-!
# Proofs/NormalForm — one list of ranges for one set of keys

Two keys apart from each other with a key missing between them are in different ranges of a list in
**normal form**, and a run of covered keys lies in one range of it (`Normal.exists_around`):

```
   normal      [0 ───────── 7]     [9 ── 12]
   any other   [0 ─ 3] [2 ── 7]    [9 ── 12]      each of its ranges lies in one above
```

So the ranges of the normal form are the maximal runs of the covered keys.  They are determined by
these keys (`Normal.eq_of_covers`), and no list needs fewer (`Normal.length_le`).
-/

namespace ZGrid

namespace KeyRange

/-- **Normal form**: every range holds a key, and at least one key is missing between neighbours. -/
structure Normal (ranges : List KeyRange) : Prop where
  /-- The ends of each range stand in order. -/
  ordered : ∀ range ∈ ranges, range.Ordered
  /-- No range overlaps or touches the next one. -/
  separated : ranges.IsChain Separated

variable {range former next : KeyRange} {ranges other : List KeyRange} {key : Key}

/-! ## A range and its keys -/

theorem start_mem (h : range.Ordered) : range.start ∈ range := ⟨UInt64.le_refl _, h⟩

theorem stop_mem (h : range.Ordered) : range.stop ∈ range := ⟨h, UInt64.le_refl _⟩

theorem ordered_of_mem (h : key ∈ range) : range.Ordered := UInt64.le_trans h.1 h.2

/-! ## Any two ranges of a normal list -/

/-- A chain of ranges that each hold a key is a chain between any two of them, for a relation that
passes over such a range. -/
theorem pairwise_of_isChain {relation : KeyRange → KeyRange → Prop}
    (htrans : ∀ {a b c}, b.Ordered → relation a b → relation b c → relation a c)
    (hordered : ∀ range ∈ ranges, range.Ordered) (hchain : ranges.IsChain relation) :
    ranges.Pairwise relation := by
  induction ranges with
  | nil => exact .nil
  | cons first rest ih =>
    have hrest := ih (fun range h => hordered range (List.mem_cons_of_mem _ h)) hchain.tail
    refine List.pairwise_cons.mpr ⟨?_, hrest⟩
    cases rest with
    | nil => simp
    | cons second rest =>
      have hfirst := (List.isChain_cons_cons.mp hchain).1
      intro range hmem
      obtain rfl | hmem := List.mem_cons.mp hmem
      · exact hfirst
      · exact htrans (hordered second (by simp)) hfirst ((List.pairwise_cons.mp hrest).1 range hmem)

theorem Separated.trans {a b c : KeyRange} (hb : b.Ordered) (hab : Separated a b)
    (hbc : Separated b c) : Separated a c := by
  have hb := UInt64.le_iff_toNat_le.mp hb
  rw [Separated] at hab hbc ⊢
  omega

theorem Normal.pairwise (h : Normal ranges) : ranges.Pairwise Separated :=
  pairwise_of_isChain Separated.trans h.ordered h.separated

/-- Two ranges of a normal list are the same one, or a key is missing between them. -/
theorem Normal.eq_or_separated (h : Normal ranges) (hformer : former ∈ ranges)
    (hnext : next ∈ ranges) : former = next ∨ Separated former next ∨ Separated next former := by
  have : Std.Symm fun a b : KeyRange => Separated a b ∨ Separated b a := ⟨fun _ _ => Or.symm⟩
  have hpairwise : ranges.Pairwise fun a b => Separated a b ∨ Separated b a :=
    h.pairwise.imp Or.inl
  exact or_iff_not_imp_left.mpr (hpairwise.forall hformer hnext)

/-- No key lies in two ranges of a normal list. -/
theorem Normal.eq_of_mem (h : Normal ranges) (hformer : former ∈ ranges) (hnext : next ∈ ranges)
    (hkey : key ∈ former) (hkey' : key ∈ next) : former = next := by
  rw [mem_iff_toNat] at hkey hkey'
  obtain heq | hsep | hsep := h.eq_or_separated hformer hnext
  · exact heq
  · rw [Separated] at hsep
    omega
  · rw [Separated] at hsep
    omega

/-- The key right after a range of a normal list is not covered. -/
theorem Normal.not_covers_succ (h : Normal ranges) (hmem : range ∈ ranges)
    (hkey : key.toNat = range.stop.toNat + 1) : ¬ Covers ranges key := by
  rintro ⟨holder, hholder, hin⟩
  rw [mem_iff_toNat] at hin
  have horder := UInt64.le_iff_toNat_le.mp (h.ordered range hmem)
  obtain rfl | hsep | hsep := h.eq_or_separated hmem hholder
  · omega
  · rw [Separated] at hsep
    omega
  · rw [Separated] at hsep
    omega

/-- **A run of covered keys lies in one range of a normal list.** -/
theorem Normal.exists_around (h : Normal ranges) (horder : range.Ordered)
    (hcovered : ∀ key ∈ range, Covers ranges key) :
    ∃ holder ∈ ranges, holder.start ≤ range.start ∧ range.stop ≤ holder.stop := by
  obtain ⟨holder, hholder, hstart⟩ := hcovered range.start (start_mem horder)
  refine ⟨holder, hholder, hstart.1, ?_⟩
  -- Past the holder comes a key that is not covered, so the run ends before it.
  by_contra hpast
  rw [UInt64.le_iff_toNat_le, Nat.not_le] at hpast
  have hlast := range.stop.toNat_lt
  have hsucc : (UInt64.ofNat (holder.stop.toNat + 1)).toNat = holder.stop.toNat + 1 :=
    UInt64.toNat_ofNat_of_lt' (by rw [UInt64.size]; omega)
  refine h.not_covers_succ hholder hsucc (hcovered _ ?_)
  rw [mem_iff_toNat] at hstart ⊢
  omega

/-! ## The ranges are determined by their keys -/

/-- A range of one normal list is a range of every other one with the same keys. -/
theorem Normal.mem_of_covers (h : Normal ranges) (hother : Normal other)
    (hcovers : ∀ key, Covers ranges key ↔ Covers other key) (hmem : range ∈ ranges) :
    range ∈ other := by
  have horder := h.ordered range hmem
  obtain ⟨holder, hholder, hstart, hstop⟩ := hother.exists_around horder fun key hkey =>
    (hcovers key).mp ⟨range, hmem, hkey⟩
  have horder' := hother.ordered holder hholder
  obtain ⟨outer, houter, hstart', hstop'⟩ := h.exists_around horder' fun key hkey =>
    (hcovers key).mpr ⟨holder, hholder, hkey⟩
  obtain rfl : range = outer := h.eq_of_mem hmem houter (start_mem horder)
    ⟨UInt64.le_trans hstart' hstart, UInt64.le_trans horder (UInt64.le_trans hstop hstop')⟩
  obtain rfl : range = holder := by
    rw [KeyRange.mk.injEq]
    exact ⟨UInt64.le_antisymm hstart' hstart, UInt64.le_antisymm hstop hstop'⟩
  exact hholder

/-- **Two normal lists with the same keys are equal.** -/
theorem Normal.eq_of_covers (h : Normal ranges) (hother : Normal other)
    (hcovers : ∀ key, Covers ranges key ↔ Covers other key) : ranges = other := by
  have hstarts : ∀ {list : List KeyRange}, Normal list →
      list.Pairwise fun a b => a.start.toNat < b.start.toNat := by
    intro list hlist
    refine hlist.pairwise.imp_of_mem ?_
    intro a b ha hb hab
    have := UInt64.le_iff_toNat_le.mp (hlist.ordered a ha)
    rw [Separated] at hab
    omega
  have : Std.Irrefl fun a b : KeyRange => a.start.toNat < b.start.toNat := ⟨fun _ => lt_irrefl _⟩
  have : Std.Antisymm fun a b : KeyRange => a.start.toNat < b.start.toNat :=
    ⟨fun _ _ hab hba => absurd hab (lt_asymm hba)⟩
  refine (hstarts h).eq_of_mem_iff (hstarts hother) fun range => ⟨?_, ?_⟩
  · exact h.mem_of_covers hother hcovers
  · exact hother.mem_of_covers h fun key => (hcovers key).symm

/-! ## No list is shorter -/

/-- Each range of a normal list has its start in a range of any list with the same keys, and that
range lies within it. -/
theorem Normal.exists_within (h : Normal ranges)
    (hcovers : ∀ key, Covers other key ↔ Covers ranges key) (hmem : range ∈ ranges) :
    ∃ part ∈ other, range.start ∈ part ∧ ∀ key ∈ part, key ∈ range := by
  have hstart := start_mem (h.ordered range hmem)
  obtain ⟨part, hpart, hin⟩ := (hcovers range.start).mpr ⟨range, hmem, hstart⟩
  refine ⟨part, hpart, hin, ?_⟩
  obtain ⟨holder, hholder, hfirst, hlast⟩ := h.exists_around (ordered_of_mem hin) fun key hkey =>
    (hcovers key).mp ⟨part, hpart, hkey⟩
  have haround : ∀ key ∈ part, key ∈ holder := fun key hkey =>
    ⟨UInt64.le_trans hfirst hkey.1, UInt64.le_trans hkey.2 hlast⟩
  obtain rfl : range = holder := h.eq_of_mem hmem hholder hstart (haround _ hin)
  exact haround

/-- **No list with the same keys is shorter than a normal one**, and one as short has the same
ranges.  The starts of the normal list fall in different ranges of the other one. -/
theorem Normal.length_le (h : Normal ranges)
    (hcovers : ∀ key, Covers other key ↔ Covers ranges key) :
    ranges.length ≤ other.length ∧ (other.length = ranges.length → other.Perm ranges) := by
  choose! part hpart hstart hwithin using fun range (hmem : range ∈ ranges) =>
    h.exists_within hcovers hmem
  have hinj : ∀ a ∈ ranges, ∀ b ∈ ranges, part a = part b → a = b := by
    intro a ha b hb heq
    exact h.eq_of_mem ha hb (start_mem (h.ordered a ha)) (hwithin b hb _ (heq ▸ hstart a ha))
  have hnodup : (ranges.map part).Nodup := List.Nodup.map_on hinj <| h.pairwise.imp_of_mem <| by
    rintro a _ ha - hab rfl
    have := UInt64.le_iff_toNat_le.mp (h.ordered a ha)
    rw [Separated] at hab
    omega
  have hsubperm : (ranges.map part).Subperm other := hnodup.subperm fun range hmem => by
    obtain ⟨a, ha, rfl⟩ := List.mem_map.mp hmem
    exact hpart a ha
  constructor
  · simpa using hsubperm.length_le
  · intro hlength
    have hperm : (ranges.map part).Perm other := hsubperm.perm_of_length_le (by simp [hlength])
    -- Each part is the whole range: what holds its last key is the part with its first one.
    have hwhole : ∀ a ∈ ranges, part a = id a := by
      intro a ha
      have hlast := stop_mem (h.ordered a ha)
      obtain ⟨last, hlast_mem, hin⟩ := (hcovers a.stop).mpr ⟨a, ha, hlast⟩
      obtain ⟨b, hb, rfl⟩ := List.mem_map.mp (hperm.mem_iff.mpr hlast_mem)
      obtain rfl : a = b := h.eq_of_mem ha hb hlast (hwithin b hb _ hin)
      have horder := ordered_of_mem hin
      have hfirst := hwithin a ha _ (start_mem horder)
      have hfinal := hwithin a ha _ (stop_mem horder)
      rw [id, KeyRange.mk.injEq]
      exact ⟨UInt64.le_antisymm (hstart a ha).1 hfirst.1, UInt64.le_antisymm hfinal.2 hin.2⟩
    rw [List.map_congr_left hwhole, List.map_id] at hperm
    exact hperm.symm

end KeyRange

/-! ## Range sets -/

namespace RangeSet

open KeyRange

variable {ranges other : List KeyRange}

theorem normal_ofList (h : ∀ range ∈ ranges, range.Ordered) : Normal (ofList ranges).toList := by
  rw [toList_ofList]
  exact ⟨ordered_merged h, isChain_mergeAdjacent _⟩

theorem covers_ofList (ranges : List KeyRange) (key : Key) :
    Covers (ofList ranges).toList key ↔ Covers ranges key := by
  rw [toList_ofList]
  exact covers_merged ranges key

theorem ext_toList {a b : RangeSet} (h : a.toList = b.toList) : a = b := by
  cases a
  cases b
  exact congrArg RangeSet.mk (Array.toList_inj.mp h)

/-- **Lists with the same keys make the same range set, and only those.** -/
theorem ofList_eq_iff (h : ∀ range ∈ ranges, range.Ordered)
    (hother : ∀ range ∈ other, range.Ordered) :
    ofList ranges = ofList other ↔ ∀ key, Covers ranges key ↔ Covers other key := by
  constructor
  · intro heq key
    rw [← covers_ofList, heq, covers_ofList]
  · intro hcovers
    refine ext_toList ((normal_ofList h).eq_of_covers (normal_ofList hother) fun key => ?_)
    rw [covers_ofList, covers_ofList, hcovers]

theorem covers_append {key : Key} :
    Covers (ranges ++ other) key ↔ Covers ranges key ∨ Covers other key := by
  simp [Covers, or_and_right, exists_or]

/-- **A range set is the canonical form of its keys.**  It covers the keys of the list that it is
made of; its ranges are in normal form, and no list with these keys is shorter.  So lists with the
same keys make equal range sets: the order and the repetition of the ranges do not matter, part of a
list may be brought into normal form before the rest is added, and a second time changes nothing. -/
theorem canonical_ofList (h : ∀ range ∈ ranges, range.Ordered) :
    (∀ key, Covers (ofList ranges).toList key ↔ Covers ranges key)
      ∧ Normal (ofList ranges).toList
      ∧ (∀ other, (∀ key, Covers other key ↔ Covers ranges key) →
          (ofList ranges).toList.length ≤ other.length
            ∧ (other.length = (ofList ranges).toList.length →
                other.Perm (ofList ranges).toList))
      ∧ (∀ other, (∀ range ∈ other, range.Ordered) →
          (ofList ranges = ofList other ↔ ∀ key, Covers ranges key ↔ Covers other key))
      ∧ (∀ other, (∀ range, range ∈ other ↔ range ∈ ranges) → ofList other = ofList ranges)
      ∧ (∀ more, (∀ range ∈ more, range.Ordered) →
          ofList (ranges ++ more) = ofList ((ofList ranges).toList ++ more))
      ∧ ofList (ofList ranges).toList = ofList ranges := by
  have hnormal := normal_ofList h
  refine ⟨covers_ofList ranges, hnormal, ?_, fun _ => ofList_eq_iff h, ?_, ?_, ?_⟩
  · intro other hcovers
    exact hnormal.length_le fun key => (hcovers key).trans (covers_ofList ranges key).symm
  · intro other hsame
    refine (ofList_eq_iff (fun range hmem => h range ((hsame range).mp hmem)) h).mpr fun key => ?_
    simp only [Covers, hsame]
  · intro more hmore
    have happend : ∀ {list : List KeyRange}, (∀ range ∈ list, range.Ordered) →
        ∀ range ∈ list ++ more, range.Ordered := fun hlist range hmem =>
      (List.mem_append.mp hmem).elim (hlist range) (hmore range)
    refine (ofList_eq_iff (happend h) (happend hnormal.ordered)).mpr fun key => ?_
    rw [covers_append, covers_append, covers_ofList]
  · exact (ofList_eq_iff hnormal.ordered h).mpr (covers_ofList ranges)

/-- Four ranges, up to the last key, and the two runs of their keys. -/
theorem canonical_ofList_up_to_last_key :
    let ranges : List KeyRange := [⟨9, 18446744073709551615⟩, ⟨2, 3⟩, ⟨0, 3⟩, ⟨5, 8⟩]
    (∀ range ∈ ranges, range.Ordered)
      ∧ ofList ranges = ofList [⟨0, 3⟩, ⟨5, 18446744073709551615⟩]
      ∧ (ofList ranges).toList.length ≤ 2 := by
  intro ranges
  have hordered : ∀ range ∈ ranges, range.Ordered := by decide
  have hkeys : ∀ key, Covers ranges key ↔ Covers [⟨0, 3⟩, ⟨5, 18446744073709551615⟩] key := by
    intro key
    simp only [ranges, covers_cons, covers_nil, mem_iff_toNat, UInt64.toNat_ofNat, or_false]
    omega
  obtain ⟨-, -, hshortest, heq, -⟩ := canonical_ofList hordered
  exact ⟨hordered, (heq _ (by decide)).mpr hkeys, (hshortest _ fun key => (hkeys key).symm).1⟩

end RangeSet

end ZGrid
