import Mathlib.Data.List.InsertIdx
import ZGrid.Proofs.NormalForm

/-!
# Proofs/KeyLookup — what a look-up finds

A look-up narrows a window `[low, high)` of indices.  What lies before the window ends below the
key, and what lies behind it starts above the key:

```
   0 ─── stop < key ─── low ─── not yet known ─── high ─── key < start ─── size
```

A range that is found holds the key whatever the list is (`mem_of_searchBetween`).  That none is
missed takes ranges that stand in order: then a comparison with one range settles all those before
it, or all those after it (`searchBetween_cases`).  The gap that a look-up ends on is then the place
where the key belongs (`InOrder.insertIdx`).
-/

namespace ZGrid

namespace KeyRange

/-- The first range ends below the start of the second. -/
def Before (former next : KeyRange) : Prop := former.stop < next.start

/-- Ranges that each hold a key, and each end below the start of the next one. -/
structure InOrder (ranges : List KeyRange) : Prop where
  /-- The ends of each range stand in order. -/
  ordered : ∀ range ∈ ranges, range.Ordered
  /-- Each range ends below the start of the next one. -/
  before : ranges.IsChain Before

variable {ranges : Array KeyRange} {key : Key} {low high middle : Nat}

theorem Before.trans {a b c : KeyRange} (hb : b.Ordered) (hab : Before a b) (hbc : Before b c) :
    Before a c := UInt64.lt_trans (UInt64.lt_of_lt_of_le hab hb) hbc

theorem Separated.before {former next : KeyRange} (h : Separated former next) :
    Before former next := by
  rw [Separated] at h
  rw [Before, UInt64.lt_iff_toNat_lt]
  omega

/-- A normal list is in order. -/
theorem Normal.inOrder {list : List KeyRange} (h : Normal list) : InOrder list :=
  ⟨h.ordered, h.separated.imp fun _ _ => Separated.before⟩

/-- In a list in order any range ends below the start of every later one. -/
theorem InOrder.getElem_before (h : InOrder ranges.toList) {i j : Nat} (hij : i < j)
    (hj : j < ranges.size) : Before ranges[i] ranges[j] := by
  have hpairwise := pairwise_of_isChain Before.trans h.ordered h.before
  have hbefore := List.pairwise_iff_getElem.mp hpairwise i j (hij.trans hj) hj hij
  rwa [Array.getElem_toList, Array.getElem_toList] at hbefore

theorem InOrder.getElem_ordered (h : InOrder ranges.toList) {i : Nat} (hi : i < ranges.size) :
    ranges[i].Ordered := h.ordered _ (Array.getElem_mem_toList hi)

/-! ## The window -/

/-- The key lies above all ranges before the window and below all ranges behind it. -/
structure Window (ranges : Array KeyRange) (key : Key) (low high : Nat) : Prop where
  /-- What lies before the window ends below the key. -/
  below : ∀ i (h : i < ranges.size), i < low → ranges[i].stop < key
  /-- What lies behind the window starts above the key. -/
  above : ∀ i (h : i < ranges.size), high ≤ i → key < ranges[i].start

theorem window_all (ranges : Array KeyRange) (key : Key) : Window ranges key 0 ranges.size :=
  ⟨fun _ _ hlow => absurd hlow (Nat.not_lt_zero _), fun _ hi hhigh => absurd hi (by omega)⟩

/-- A range above the key ends the window before it. -/
theorem Window.lower (h : Window ranges key low high) (horder : InOrder ranges.toList)
    (hmiddle : middle < ranges.size) (hkey : key < ranges[middle].start) :
    Window ranges key low middle := by
  refine ⟨h.below, fun i hi hle => ?_⟩
  obtain rfl | hlt := hle.eq_or_lt
  · exact hkey
  · exact UInt64.lt_trans (UInt64.lt_of_lt_of_le hkey (horder.getElem_ordered hmiddle))
      (horder.getElem_before hlt hi)

/-- A range below the key starts the window behind it. -/
theorem Window.upper (h : Window ranges key low high) (horder : InOrder ranges.toList)
    (hmiddle : middle < ranges.size) (hkey : ranges[middle].stop < key) :
    Window ranges key (middle + 1) high := by
  refine ⟨fun i hi hlt => ?_, h.above⟩
  obtain rfl | hlt := (Nat.le_of_lt_succ hlt).eq_or_lt
  · exact hkey
  · exact UInt64.lt_trans (UInt64.lt_of_lt_of_le (horder.getElem_before hlt hmiddle)
      (horder.getElem_ordered hmiddle)) hkey

/-- Around an empty window no range holds the key. -/
theorem Window.not_covers (h : Window ranges key low low) : ¬ Covers ranges.toList key := by
  rintro ⟨range, hmem, hin⟩
  obtain ⟨i, hi, rfl⟩ := List.mem_iff_getElem.mp hmem
  have hi : i < ranges.size := by simpa using hi
  rw [Array.getElem_toList, mem_def, UInt64.le_iff_toNat_le, UInt64.le_iff_toNat_le] at hin
  obtain hlt | hle := Nat.lt_or_ge i low
  · have := UInt64.lt_iff_toNat_lt.mp (h.below i hi hlt)
    omega
  · have := UInt64.lt_iff_toNat_lt.mp (h.above i hi hle)
    omega

/-! ## The search -/

/-- **A range that is found holds the key**, in order or not. -/
theorem mem_of_searchBetween {bound : high ≤ ranges.size} {index : Nat}
    (h : searchBetween ranges key low high bound = .found index) :
    ∃ hindex : index < ranges.size, key ∈ ranges[index] := by
  fun_induction searchBetween ranges key low high bound with
  | case1 low high bound hlt middle hmiddle hkey ih => exact ih h
  | case2 low high bound hlt middle hmiddle hkey hkey' ih => exact ih h
  | case3 low high bound hlt middle hmiddle hkey hkey' =>
    obtain rfl : middle = index := Lookup.found.inj h
    exact ⟨hmiddle, UInt64.not_lt.mp hkey, UInt64.not_lt.mp hkey'⟩
  | case4 => cases h

/-- **A look-up among ranges in order finds the range that holds the key, or the gap where the key
lies.** -/
theorem searchBetween_cases (horder : InOrder ranges.toList) {bound : high ≤ ranges.size}
    (hle : low ≤ high) (h : Window ranges key low high) :
    (∃ index, ∃ hindex : index < ranges.size, key ∈ ranges[index]
        ∧ searchBetween ranges key low high bound = .found index)
      ∨ ∃ position, position ≤ ranges.size ∧ Window ranges key position position
        ∧ searchBetween ranges key low high bound = .gap position ranges.size := by
  fun_induction searchBetween ranges key low high bound with
  | case1 low high bound hlt middle hmiddle hkey ih =>
    exact ih (Nat.le_add_right ..) (h.lower horder hmiddle hkey)
  | case2 low high bound hlt middle hmiddle hkey hkey' ih =>
    exact ih (by omega) (h.upper horder hmiddle hkey')
  | case3 low high bound hlt middle hmiddle hkey hkey' =>
    exact .inl ⟨middle, hmiddle, ⟨UInt64.not_lt.mp hkey, UInt64.not_lt.mp hkey'⟩, rfl⟩
  | case4 low high bound hlt =>
    obtain rfl : low = high := by omega
    exact .inr ⟨low, bound, h, rfl⟩

/-- **A look-up ends** on a range or on a gap between two indices, in order or not. -/
theorem exists_found_or_gap (hlow : low ≤ ranges.size) (bound : high ≤ ranges.size) (key : Key) :
    (∃ index, searchBetween ranges key low high bound = .found index)
      ∨ ∃ position ≤ ranges.size,
        searchBetween ranges key low high bound = .gap position ranges.size := by
  fun_induction searchBetween ranges key low high bound with
  | case1 low high bound hlt middle hmiddle hkey ih => exact ih hlow
  | case2 low high bound hlt middle hmiddle hkey hkey' ih => exact ih hmiddle
  | case3 low high bound hlt middle hmiddle hkey hkey' => exact .inl ⟨middle, rfl⟩
  | case4 low high bound hlt => exact .inr ⟨low, hlow, rfl⟩

/-! ## The place of a key -/

theorem Window.forall_take (h : Window ranges key low high) :
    ∀ range ∈ ranges.toList.take low, range.stop < key := by
  intro range hrange
  obtain ⟨i, hi, rfl⟩ := List.mem_take_iff_getElem.mp hrange
  rw [Nat.lt_min, Array.length_toList] at hi
  exact h.below i hi.2 hi.1

theorem Window.forall_drop (h : Window ranges key low high) :
    ∀ range ∈ ranges.toList.drop high, key < range.start := by
  intro range hrange
  obtain ⟨i, hi, rfl⟩ := List.mem_drop_iff_getElem.mp hrange
  rw [Array.length_toList, Nat.add_comm] at hi
  exact h.above (high + i) hi (Nat.le_add_right high i)

theorem pairwise_insertIdx {list : List KeyRange} {position : Nat} (hle : position ≤ list.length)
    (h : list.Pairwise Before) (hbelow : ∀ range ∈ list.take position, range.stop < key)
    (habove : ∀ range ∈ list.drop position, key < range.start) :
    (list.insertIdx position (single key)).Pairwise Before := by
  induction position generalizing list with
  | zero => exact List.pairwise_cons.mpr ⟨habove, h⟩
  | succ position ih =>
    cases list with
    | nil => cases hle
    | cons first rest =>
      obtain ⟨hfirst, hrest⟩ := List.pairwise_cons.mp h
      have hle := Nat.le_of_succ_le_succ hle
      rw [List.take_succ_cons, List.forall_mem_cons] at hbelow
      refine List.pairwise_cons.mpr ⟨fun range hrange => ?_, ih hle hrest hbelow.2 habove⟩
      obtain rfl | hrange := (List.mem_insertIdx hle).mp hrange
      · exact hbelow.1
      · exact hfirst range hrange

/-- **Ranges stay in order when a key is put into the gap where it lies.** -/
theorem InOrder.insertIdx {position : Nat} (h : InOrder ranges.toList)
    (hle : position ≤ ranges.size) (hgap : Window ranges key position position) :
    InOrder (ranges.toList.insertIdx position (single key)) := by
  have hlength : position ≤ ranges.toList.length := hle
  constructor
  · intro range hrange
    obtain rfl | hrange := (List.mem_insertIdx hlength).mp hrange
    · exact UInt64.le_refl key
    · exact h.ordered range hrange
  · have hpairwise := pairwise_of_isChain Before.trans h.ordered h.before
    exact (pairwise_insertIdx hlength hpairwise hgap.forall_take hgap.forall_drop).isChain

/-- In a list in order a key lies in one range at most. -/
theorem InOrder.index_unique (h : InOrder ranges.toList) {i j : Nat} {hi : i < ranges.size}
    {hj : j < ranges.size} (hin : key ∈ ranges[i]) (hin' : key ∈ ranges[j]) : i = j := by
  -- Were it in an earlier and in a later one, it would lie below itself.
  have hearlier : ∀ {i j : Nat} {hi : i < ranges.size} {hj : j < ranges.size},
      key ∈ ranges[i] → key ∈ ranges[j] → ¬ i < j := fun hin hin' hlt =>
    UInt64.lt_irrefl key (UInt64.lt_of_le_of_lt hin.2
      (UInt64.lt_of_lt_of_le (h.getElem_before hlt _) hin'.1))
  have := hearlier hin hin'
  have := hearlier hin' hin
  omega

/-- What a look-up that finds no range tells of its gap: the indices next to it, where there are
some, and the place where the key would be inserted. -/
structure TellsGap (ranges : Array KeyRange) (below above : Option Nat) (position : Nat) :
    Prop where
  /-- The place is one of the array, or its end. -/
  position_le : position ≤ ranges.size
  /-- The key would be inserted there. -/
  insertionPoint_eq : (Lookup.between below above).insertionPoint = some position
  /-- The index before the place. -/
  below_eq : below = if position = 0 then none else some (position - 1)
  /-- The index at the place. -/
  above_eq : above = if position = ranges.size then none else some position

theorem tellsGap_of_gap {below above : Option Nat} {position : Nat} (hle : position ≤ ranges.size)
    (h : Lookup.between below above = .gap position ranges.size) :
    TellsGap ranges below above position := by
  have hpoint := Lookup.insertionPoint_gap position ranges.size
  rw [← h] at hpoint
  obtain ⟨rfl, rfl⟩ := Lookup.between.inj h
  refine ⟨hle, hpoint, rfl, ?_⟩
  obtain hlt | rfl := hle.lt_or_eq
  · rw [if_pos hlt, if_neg hlt.ne]
  · rw [if_neg (lt_irrefl _), if_pos rfl]

/-- **The answer of a look-up.**  On any array it is the index of a range that holds the key, or a
gap of the array.  On ranges in order the first is the answer for every range that holds the key;
and around the gap of the second the ranges before it end below the key, those behind it start above
the key, and with the key put into it the ranges are still in order. -/
theorem search_answer (ranges : Array KeyRange) (key : Key) :
    ((∃ index, search ranges key = .found index
          ∧ ∃ hindex : index < ranges.size, key ∈ ranges[index])
        ∨ ∃ below above position, search ranges key = .between below above
          ∧ TellsGap ranges below above position)
      ∧ (InOrder ranges.toList →
        (∀ index, search ranges key = .found index
            ↔ ∃ hindex : index < ranges.size, key ∈ ranges[index])
          ∧ ∀ below above, search ranges key = .between below above →
            ∃ position, TellsGap ranges below above position
              ∧ (∀ i (h : i < ranges.size), i < position → ranges[i].stop < key)
              ∧ (∀ i (h : i < ranges.size), position ≤ i → key < ranges[i].start)
              ∧ InOrder (ranges.toList.insertIdx position (single key))) := by
  constructor
  · obtain ⟨index, hfound⟩ | ⟨position, hle, hgap⟩ :=
      exists_found_or_gap (Nat.zero_le _) (Nat.le_refl ranges.size) key
    · exact .inl ⟨index, hfound, mem_of_searchBetween hfound⟩
    · exact .inr ⟨_, _, position, hgap, tellsGap_of_gap hle rfl⟩
  · intro horder
    have hcases : (∃ index, ∃ hindex : index < ranges.size, key ∈ ranges[index]
          ∧ search ranges key = .found index)
        ∨ ∃ position, position ≤ ranges.size ∧ Window ranges key position position
          ∧ search ranges key = .gap position ranges.size :=
      searchBetween_cases horder (Nat.zero_le _) (window_all ranges key)
    refine ⟨fun index => ⟨mem_of_searchBetween, ?_⟩, fun below above hbetween => ?_⟩
    · rintro ⟨hindex, hin⟩
      obtain ⟨other, hother, hin', hfound⟩ | ⟨position, -, hgap, -⟩ := hcases
      · rwa [← horder.index_unique hin' hin]
      · exact absurd ⟨_, Array.getElem_mem_toList hindex, hin⟩ hgap.not_covers
    · obtain ⟨_, _, -, hfound⟩ | ⟨position, hle, hgap, hanswer⟩ := hcases
      · cases hfound.symm.trans hbetween
      · exact ⟨position, tellsGap_of_gap hle (hbetween.symm.trans hanswer), hgap.below, hgap.above,
          horder.insertIdx hle hgap⟩

/-- A key in one of two ranges, and a key between them. -/
theorem search_answer_between :
    InOrder [⟨0, 3⟩, ⟨8, 11⟩] ∧ search #[⟨0, 3⟩, ⟨8, 11⟩] 9 = .found 1
      ∧ InOrder ([(⟨0, 3⟩ : KeyRange), ⟨8, 11⟩].insertIdx 1 (single 5)) := by
  have hbefore : Before ⟨0, 3⟩ ⟨8, 11⟩ := by rw [Before]; decide
  have horder : InOrder #[(⟨0, 3⟩ : KeyRange), ⟨8, 11⟩].toList :=
    ⟨by decide, List.isChain_cons_cons.mpr ⟨hbefore, List.isChain_singleton _⟩⟩
  refine ⟨horder, ?_, ?_⟩
  · refine (((search_answer #[⟨0, 3⟩, ⟨8, 11⟩] 9).2 horder).1 1).mpr ⟨by decide, ?_⟩
    exact mem_def.mpr ⟨by decide, by decide⟩
  · obtain ⟨position, htells, -, -, hinserted⟩ :=
      ((search_answer #[⟨0, 3⟩, ⟨8, 11⟩] 5).2 horder).2 (some 0) (some 1) (by decide +kernel)
    obtain rfl : 1 = position := Option.some.inj htells.insertionPoint_eq
    exact hinserted

end KeyRange

namespace RangeSet

open KeyRange

variable {set : RangeSet} {key : Key}

theorem contains_iff_exists_found : set.contains key = true
    ↔ ∃ index, KeyRange.search set.ranges key = .found index := by
  rw [contains, RangeSet.search]
  cases KeyRange.search set.ranges key <;> simp [Lookup.isFound]

/-- What a look-up finds is held by a range. -/
theorem covers_of_contains (h : set.contains key = true) : Covers set.toList key := by
  obtain ⟨index, hfound⟩ := contains_iff_exists_found.mp h
  obtain ⟨hindex, hkey⟩ := mem_of_searchBetween hfound
  exact ⟨_, Array.getElem_mem_toList hindex, hkey⟩

/-- **A look-up in a set of ranges in order finds exactly the keys that the ranges hold.** -/
theorem contains_iff_covers (h : InOrder set.toList) :
    set.contains key = true ↔ Covers set.toList key := by
  refine ⟨covers_of_contains, fun hcovers => contains_iff_exists_found.mpr ?_⟩
  obtain ⟨index, -, -, hfound⟩ | ⟨_, -, hgap, -⟩ :=
    searchBetween_cases h (Nat.zero_le _) (window_all set.ranges key)
  · exact ⟨index, hfound⟩
  · exact absurd hcovers hgap.not_covers

end RangeSet

end ZGrid
