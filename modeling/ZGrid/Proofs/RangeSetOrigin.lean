import ZGrid.Proofs.KeyLookup
import ZGrid.Proofs.WrittenRead
import ZGrid.RangeSet.Document

/-!
# Proofs/RangeSetOrigin — range sets by where they come from

```
   a list of ranges   ──sorted, merged──▸  normal ──written──▸ a document ──read──▸ the same set
   nothing            ──────────────────▸  normal
   any document       ──as it stands────▸  any order
```

A set that is made of a list is in normal form, and a document gives back the set that was written
to it (`ofDocument_toDocument`), so a set that is only ever built, written and read stays in normal
form.  But a document is not sorted when it is read: its ranges may stand in any order, and then a
look-up passes keys over that a range holds (`not_normal_of_obtained`).  What it finds is held all
the same, and once the ranges are brought into normal form it finds every key
(`lookup_of_obtained`).
-/

namespace ZGrid

open Json Json.Reader Json.Record

/-! ## Range sets in documents -/

theorem takes_readKey (key : Key) : Takes readKey (Json.ofInt key.toNat).compact key := by
  have hmost : (key.toNat : Int) ≤ UInt64.size - 1 := by
    have := key.toNat_lt
    simp only [UInt64.size]
    omega
  have h := (takes_integer (Int.natCast_nonneg key.toNat) hmost).map fun value =>
    value.toNat.toUInt64
  rw [Int.toNat_natCast, Nat.toUInt64_eq, UInt64.ofNat_toNat] at h
  exact h

theorem KeyRange.takes_toJson (range : KeyRange) :
    Takes (KeyRange.record.reader ⟨0, 0⟩) range.toJson.compact range := by
  have hfills : Fills KeyRange.record.members
      [(Json.ofInt range.start.toNat).compact, (Json.ofInt range.stop.toNat).compact]
      ⟨0, 0⟩ range :=
    .cons ((takes_readKey range.start).map _) (.cons ((takes_readKey range.stop).map _) (.nil _))
  exact takes_record (by decide) (by simp [KeyRange.record]) hfills blanks_nil blanks_nil
    blanks_nil blanks_nil

namespace RangeSet

open KeyRange

/-- **A range set is read as it was written**, in normal form or not. -/
theorem ofDocument_toDocument (set : RangeSet) : ofDocument set.toDocument = .ok set := by
  have hitems : List.Forall₂ (Takes (KeyRange.record.reader ⟨0, 0⟩))
      (compactItems (set.toList.map KeyRange.toJson)) set.toList := by
    rw [compactItems_eq_map, List.map_map, List.forall₂_map_left_iff]
    exact List.forall₂_same.mpr fun range _ => range.takes_toJson
  have hranges := (takes_list hitems blanks_nil blanks_nil blanks_nil).map fun ranges =>
    (⟨ranges.toArray⟩ : RangeSet)
  have hfills : Fills RangeSet.record.members [_] empty set := .cons hranges (.nil _)
  have hset := takes_record (by decide) (by simp [RangeSet.record]) hfills blanks_nil blanks_nil
    blanks_nil blanks_nil
  refine Takes.document ?_
  rw [toDocument, compactText, String.toList_ofList]
  exact hset

/-! ## The ways to a range set -/

/-- **The ways to a range set.** -/
inductive Obtained : RangeSet → Prop
  /-- It is made of a list of ranges. -/
  | ofList {ranges : List KeyRange} (ordered : ∀ range ∈ ranges, range.Ordered) :
      Obtained (ofList ranges)
  /-- It is empty from the beginning. -/
  | empty : Obtained empty
  /-- It is read from a document whose ranges have their ends in order. -/
  | ofDocument {text : String} {set : RangeSet} (read : ofDocument text = .ok set)
      (ordered : ∀ range ∈ set.toList, range.Ordered) : Obtained set

theorem normal_empty : Normal empty.toList := ⟨by simp, List.isChain_nil⟩

theorem Obtained.ordered {set : RangeSet} (h : Obtained set) :
    ∀ range ∈ set.toList, range.Ordered := by
  cases h with
  | ofList hordered => exact (normal_ofList hordered).ordered
  | empty => exact normal_empty.ordered
  | ofDocument _ hordered => exact hordered

/-- The ways to a range set on which a document is read only if a set was written to it. -/
inductive Built : RangeSet → Prop
  /-- It is made of a list of ranges. -/
  | ofList {ranges : List KeyRange} (ordered : ∀ range ∈ ranges, range.Ordered) :
      Built (ofList ranges)
  /-- It is empty from the beginning. -/
  | empty : Built empty
  /-- It is read from the document of such a set. -/
  | reread {set again : RangeSet} (built : Built set)
      (read : ofDocument set.toDocument = .ok again) : Built again

theorem Built.normal {set : RangeSet} (h : Built set) : Normal set.toList := by
  induction h with
  | ofList hordered => exact normal_ofList hordered
  | empty => exact normal_empty
  | @reread set again _ hread ih =>
    rw [ofDocument_toDocument, Except.ok.injEq] at hread
    exact hread ▸ ih

/-- A set in normal form is what its own ranges make. -/
theorem built_iff_normal {set : RangeSet} : Built set ↔ Normal set.toList := by
  refine ⟨Built.normal, fun hnormal => ?_⟩
  have hself : RangeSet.ofList set.toList = set :=
    ext_toList ((normal_ofList hnormal.ordered).eq_of_covers hnormal (covers_ofList set.toList))
  exact hself ▸ .ofList hnormal.ordered

/-- **What is known of a set by its origin.**  The sets in normal form with exact look-ups are those
that are built, written and read again.  Of any other, read from some document, what a look-up finds
is held by a range; among ranges in order it finds every key that is held; and brought into normal
form the ranges are in order and hold the same keys. -/
theorem lookup_of_obtained {set : RangeSet} (h : Obtained set) :
    ((Normal set.toList ∧ ∀ key, set.contains key = true ↔ Covers set.toList key) ↔ Built set)
      ∧ (∀ key, set.contains key = true → Covers set.toList key)
      ∧ (InOrder set.toList → ∀ key, set.contains key = true ↔ Covers set.toList key)
      ∧ Normal (RangeSet.ofList set.toList).toList
      ∧ ∀ key, (RangeSet.ofList set.toList).contains key = true ↔ Covers set.toList key := by
  have hnormal := normal_ofList h.ordered
  refine ⟨⟨fun hmeets => built_iff_normal.mpr hmeets.1, fun hbuilt => ?_⟩,
    fun _ => covers_of_contains, fun horder _ => contains_iff_covers horder, hnormal, fun key => ?_⟩
  · exact ⟨hbuilt.normal, fun _ => contains_iff_covers hbuilt.normal.inOrder⟩
  · rw [contains_iff_covers hnormal.inOrder, covers_ofList]

/-- Two ranges in descending order. -/
def descending : RangeSet := ⟨#[⟨5, 6⟩, ⟨0, 1⟩]⟩

private theorem obtained_descending : Obtained descending :=
  .ofDocument (ofDocument_toDocument descending) (by decide)

private theorem covers_descending : Covers descending.toList 5 :=
  ⟨⟨5, 6⟩, by decide, by decide, by decide⟩

private theorem contains_descending : descending.contains 5 = false := by decide +kernel

theorem lookup_of_descending : Obtained descending ∧ ¬ Built descending
    ∧ (RangeSet.ofList descending.toList).contains 5 = true := by
  obtain ⟨hmeets, -, -, -, hnormalised⟩ := lookup_of_obtained obtained_descending
  refine ⟨obtained_descending, fun hbuilt => ?_, (hnormalised 5).mpr covers_descending⟩
  exact Bool.false_ne_true
    (contains_descending.symm.trans (((hmeets.mpr hbuilt).2 5).mpr covers_descending))

/-- **A set need not be in normal form, and a look-up may miss a key**: the ranges `[5, 6] [0, 1]`
of a document make a set as they stand there, and the key 5 is not found. -/
theorem not_normal_of_obtained :
    ofDocument "\x7b\"ranges\":[\x7b\"start\":5,\"end\":6\x7d,\x7b\"start\":0,\"end\":1\x7d]\x7d"
        = .ok descending
      ∧ ¬ ∀ set, Obtained set →
        Normal set.toList ∧ ∀ key, set.contains key = true ↔ Covers set.toList key := by
  refine ⟨by decide +kernel, fun h => ?_⟩
  have hfound := ((h _ obtained_descending).2 5).mpr covers_descending
  exact Bool.false_ne_true (contains_descending.symm.trans hfound)

end RangeSet

end ZGrid
