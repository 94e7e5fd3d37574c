import ZGrid.Proofs.TrimmedFields
import ZGrid.Text.Lowercase

/-!
# Proofs/SmallLetters — small letters of a text and of its parts

```
   stem      index_handler.ΑΣ.         ──▸  index_handler.ας.
   key       index_handler.ΑΣ.type     ──▸  index_handler.ασ.type
```

A letter's small form depends on its neighbours in one case: the last `Σ` of a word.  So the small
form of a text begins with that of its first part (`lowerFrom_append_of_not_endsInSigma`), unless
the first part ends in a `Σ` and the second goes on with a letter (`not_prefix_of_endsInSigma`).
ASCII capitals have no say in it: texts that differ in their case alone have one small form.
-/

namespace ZGrid.Text

/-! ## The end of a word -/

/-- A character that does not count at the end of a word. -/
def isSkipped (c : Char) : Bool := inRuns skippedInWords c.toNat

/-- A letter with case. -/
def isCased (c : Char) : Bool := inRuns casedLetters c.toNat

theorem meetsCased_eq (text : List Char) :
    meetsCased text = (text.dropWhile isSkipped).head?.any isCased := by
  change meetsCased text
    = (text.dropWhile fun c => inRuns skippedInWords c.toNat).head?.any isCased
  rw [meetsCased]
  cases text.dropWhile fun c => inRuns skippedInWords c.toNat <;> rfl

theorem meetsCased_cons (c : Char) (text : List Char) :
    meetsCased (c :: text) = if isSkipped c then meetsCased text else isCased c := by
  rw [meetsCased_eq, meetsCased_eq]
  cases hc : isSkipped c with
  | true => rw [List.dropWhile_cons_of_pos hc]; rfl
  | false => rw [List.dropWhile_cons_of_neg (by simp [hc])]; rfl

theorem meetsCased_cons_of_not_skipped {c : Char} (hc : isSkipped c = false) (text : List Char) :
    meetsCased (c :: text) = isCased c := by
  rw [meetsCased_cons, hc]
  rfl

theorem meetsCased_append_congr {after other : List Char}
    (h : meetsCased after = meetsCased other) (text : List Char) :
    meetsCased (text ++ after) = meetsCased (text ++ other) := by
  induction text with
  | nil => exact h
  | cons c text ih => rw [List.cons_append, List.cons_append, meetsCased_cons, meetsCased_cons, ih]

theorem meetsCased_append_of_skipped {text : List Char} (h : ∀ c ∈ text, isSkipped c = true)
    (after : List Char) : meetsCased (text ++ after) = meetsCased after := by
  induction text with
  | nil => rfl
  | cons c text ih =>
    rw [List.forall_mem_cons] at h
    rw [List.cons_append, meetsCased_cons, if_pos h.1, ih h.2]

/-! ## A part and what surrounds it -/

/-- The small form of a character between two texts, the first one given from its end. -/
def lowerPiece (before : List Char) (c : Char) (after : List Char) : List Char :=
  if c = 'Σ' then [if meetsCased before && !meetsCased after then 'ς' else 'σ']
  else if c = 'İ' then ['i', '\u0307']
  else [lowerChar c]

/-- The small form of a part of a text, between what precedes it, given from its end, and what
follows it. -/
def lowerBetween (before : List Char) : (text after : List Char) → List Char
  | [], _ => []
  | c :: rest, after => lowerPiece before c (rest ++ after) ++ lowerBetween (c :: before) rest after

theorem lowerFrom_cons (before : List Char) (c : Char) (rest : List Char) :
    lowerFrom before (c :: rest) = lowerPiece before c rest ++ lowerFrom (c :: before) rest := rfl

theorem lowerBetween_nil_after (before text : List Char) :
    lowerBetween before text [] = lowerFrom before text := by
  induction text generalizing before with
  | nil => rfl
  | cons c text ih => rw [lowerBetween, lowerFrom_cons, List.append_nil, ih]

theorem lowerBetween_append (before text more after : List Char) :
    lowerBetween before (text ++ more) after
      = lowerBetween before text (more ++ after)
        ++ lowerBetween (text.reverse ++ before) more after := by
  induction text generalizing before with
  | nil => rfl
  | cons c text ih =>
    rw [List.cons_append, lowerBetween, lowerBetween, ih, List.append_assoc, List.append_assoc,
      List.reverse_cons, List.append_assoc]
    rfl

theorem lowerPiece_congr {before after other : List Char} {c : Char}
    (h : c = 'Σ' → meetsCased after = meetsCased other) :
    lowerPiece before c after = lowerPiece before c other := by
  rw [lowerPiece, lowerPiece]
  split
  · rename_i hc
    rw [h hc]
  · rfl

theorem lowerBetween_congr {after other : List Char} (h : meetsCased after = meetsCased other)
    (before text : List Char) :
    lowerBetween before text after = lowerBetween before text other := by
  induction text generalizing before with
  | nil => rfl
  | cons c text ih =>
    rw [lowerBetween, lowerBetween, ih, lowerPiece_congr fun _ => meetsCased_append_congr h text]

theorem lowerBetween_of_not_mem {text : List Char} (h : 'Σ' ∉ text)
    (before after other : List Char) :
    lowerBetween before text after = lowerBetween before text other := by
  induction text generalizing before with
  | nil => rfl
  | cons c text ih =>
    rw [List.mem_cons, not_or] at h
    rw [lowerBetween, lowerBetween, ih h.2, lowerPiece_congr fun hc => absurd hc.symm h.1]

/-! ## A `Σ` at the end of a part -/

/-- A `Σ` ends the last word of a text. -/
def endsInSigma (text : List Char) : Bool :=
  match text.reverse.dropWhile isSkipped with
  | 'Σ' :: before => meetsCased before
  | _ => false

/-- The characters that do not count at the end of a text, and what precedes them. -/
theorem exists_ends (text : List Char) : ∃ ends : List Char,
    text = (text.reverse.dropWhile isSkipped).reverse ++ ends ∧
      (∀ c ∈ ends, isSkipped c = true) ∧
      ∀ c ∈ (text.reverse.dropWhile isSkipped).head?, isSkipped c = false := by
  refine ⟨(text.reverse.takeWhile isSkipped).reverse, ?_, fun c hc => ?_, fun c hc => ?_⟩
  · rw [← List.reverse_append, List.takeWhile_append_dropWhile, List.reverse_reverse]
  · exact List.mem_takeWhile_imp (List.mem_reverse.mp hc)
  · have hhead := List.head?_dropWhile_not isSkipped text.reverse
    rw [hc] at hhead
    simpa using hhead

/-- What follows a text decides on nothing but the `Σ` at its end. -/
theorem exists_lowerBetween_eq (text : List Char) : ∃ front back : List Char, ∀ after,
    lowerBetween [] text after
      = front ++ (if endsInSigma text then [if meetsCased after then 'σ' else 'ς'] else [])
        ++ back := by
  obtain ⟨ends, htext, hends, hlast⟩ := exists_ends text
  have hsigma : 'Σ' ∉ ends := fun hmem => absurd (hends 'Σ' hmem) (by decide +kernel)
  rw [endsInSigma]
  generalize text.reverse.dropWhile isSkipped = core at htext hlast
  subst htext
  cases core with
  | nil =>
    refine ⟨[], lowerBetween [] ends [], fun after => ?_⟩
    exact lowerBetween_of_not_mem hsigma [] after []
  | cons c before =>
    have hsplit : ∀ after, lowerBetween [] ((c :: before).reverse ++ ends) after
        = lowerBetween [] before.reverse [c] ++ lowerPiece before c after
          ++ lowerBetween (c :: before) ends [] := by
      intro after
      have hword : meetsCased (c :: ends ++ after) = meetsCased [c] := by
        rw [List.cons_append, meetsCased_cons_of_not_skipped (hlast c rfl),
          meetsCased_cons_of_not_skipped (hlast c rfl)]
      rw [List.reverse_cons, List.append_assoc, List.singleton_append, lowerBetween_append,
        lowerBetween_congr hword, List.reverse_reverse, List.append_nil, lowerBetween,
        lowerBetween_of_not_mem hsigma _ after [],
        lowerPiece_congr fun _ => meetsCased_append_of_skipped hends after, List.append_assoc]
    by_cases hc : c = 'Σ'
    · subst hc
      cases hbefore : meetsCased before with
      | true =>
        refine ⟨lowerBetween [] before.reverse ['Σ'], lowerBetween ('Σ' :: before) ends [],
          fun after => ?_⟩
        rw [hsplit, lowerPiece]
        cases meetsCased after <;> simp [hbefore]
      | false =>
        refine ⟨lowerBetween [] before.reverse ['Σ'] ++ ['σ'],
          lowerBetween ('Σ' :: before) ends [], fun after => ?_⟩
        rw [hsplit, lowerPiece]
        simp [hbefore]
    · refine ⟨lowerBetween [] before.reverse [c] ++ lowerPiece before c [],
        lowerBetween (c :: before) ends [], fun after => ?_⟩
      have hpiece : lowerPiece before c after = lowerPiece before c [] :=
        lowerPiece_congr fun h => absurd h hc
      rw [hsplit, hpiece]
      simp [hc]

/-- The small form of a text begins with that of its first part, which may end in another `Σ`. -/
theorem lowerFrom_append (text after : List Char) :
    lowerFrom [] (text ++ after) = lowerBetween [] text after ++ lowerFrom text.reverse after := by
  rw [← lowerBetween_nil_after, lowerBetween_append, lowerBetween_nil_after, List.append_nil,
    List.append_nil]

/-- **The small form of a text begins with that of its first part**, if that ends in no `Σ`. -/
theorem lowerFrom_append_of_not_endsInSigma {text : List Char} (h : endsInSigma text = false)
    (after : List Char) :
    lowerFrom [] (text ++ after) = lowerFrom [] text ++ lowerFrom text.reverse after := by
  obtain ⟨front, back, hbetween⟩ := exists_lowerBetween_eq text
  rw [lowerFrom_append, ← lowerBetween_nil_after [] text, hbetween, hbetween, h]
  rfl

/-- **It does not**, if the first part ends in a `Σ` and the second one goes on with a letter. -/
theorem not_prefix_of_endsInSigma {text after : List Char} (h : endsInSigma text = true)
    (hafter : meetsCased after = true) : ¬ lowerFrom [] text <+: lowerFrom [] (text ++ after) := by
  obtain ⟨front, back, hbetween⟩ := exists_lowerBetween_eq text
  rw [lowerFrom_append, ← lowerBetween_nil_after [] text, hbetween, hbetween, h, hafter]
  have hnil : meetsCased [] = false := rfl
  rw [hnil, List.append_assoc, List.append_assoc, List.append_assoc, List.prefix_append_right_inj]
  intro hprefix
  exact absurd (List.cons_prefix_cons.mp hprefix).1 (by decide)

/-- A character that is its own small form. -/
def isSmall (c : Char) : Bool := c != 'Σ' && c != 'İ' && lowerChar c == c

theorem lowerFrom_of_isSmall {text : List Char} (h : ∀ c ∈ text, isSmall c = true)
    (before : List Char) : lowerFrom before text = text := by
  induction text generalizing before with
  | nil => rfl
  | cons c text ih =>
    rw [List.forall_mem_cons] at h
    have hc := h.1
    rw [isSmall, Bool.and_eq_true, Bool.and_eq_true, bne_iff_ne, bne_iff_ne, beq_iff_eq] at hc
    rw [lowerFrom_cons, lowerPiece, if_neg hc.1.1, if_neg hc.1.2, hc.2, ih h.2]
    rfl

theorem isSmall_of_between {c : Char} (hlow : 97 ≤ c.toNat) (hhigh : c.toNat < 123) :
    isSmall c = true := by
  have hletters : ∀ code < 123, 97 ≤ code → isSmall (Char.ofNat code) = true := by decide +kernel
  exact Char.ofNat_toNat c ▸ hletters c.toNat hhigh hlow

/-! ## ASCII capitals -/

theorem isSkipped_toLower (c : Char) : isSkipped c.toLower = isSkipped c := by
  have hcapital : ∀ n < 26, isSkipped (capital n).toLower = isSkipped (capital n) := by
    decide +kernel
  rcases toLower_eq_self_or c with hself | ⟨n, hn, rfl⟩
  · rw [hself]
  · exact hcapital n hn

theorem isCased_toLower (c : Char) : isCased c.toLower = isCased c := by
  have hcapital : ∀ n < 26, isCased (capital n).toLower = isCased (capital n) := by
    decide +kernel
  rcases toLower_eq_self_or c with hself | ⟨n, hn, rfl⟩
  · rw [hself]
  · exact hcapital n hn

theorem meetsCased_map_toLower (text : List Char) :
    meetsCased (text.map Char.toLower) = meetsCased text := by
  induction text with
  | nil => rfl
  | cons c text ih =>
    rw [List.map_cons, meetsCased_cons, meetsCased_cons, ih, isSkipped_toLower, isCased_toLower]

theorem lowerPiece_toLower (before : List Char) (c : Char) (after : List Char) :
    lowerPiece (before.map Char.toLower) c.toLower (after.map Char.toLower)
      = lowerPiece before c after := by
  have hcapital : ∀ n < 26, (capital n ≠ 'Σ' ∧ capital n ≠ 'İ') ∧
      ((capital n).toLower ≠ 'Σ' ∧ (capital n).toLower ≠ 'İ') ∧
      lowerChar (capital n).toLower = lowerChar (capital n) := by decide +kernel
  rcases toLower_eq_self_or c with hself | ⟨n, hn, rfl⟩
  · rw [hself, lowerPiece, lowerPiece, meetsCased_map_toLower, meetsCased_map_toLower]
  · obtain ⟨⟨h₁, h₂⟩, ⟨h₃, h₄⟩, hchar⟩ := hcapital n hn
    rw [lowerPiece, lowerPiece, if_neg h₁, if_neg h₂, if_neg h₃, if_neg h₄, hchar]

theorem lowerFrom_map_toLower (before text : List Char) :
    lowerFrom (before.map Char.toLower) (text.map Char.toLower) = lowerFrom before text := by
  induction text generalizing before with
  | nil => rfl
  | cons c text ih =>
    rw [List.map_cons, lowerFrom_cons, lowerFrom_cons, lowerPiece_toLower, ← ih (c :: before),
      List.map_cons]

/-- **Texts that differ in the case of ASCII letters alone have one small form.** -/
theorem lowercase_eq_of_sameLetters {a b : String} (h : sameLetters a b = true) :
    lowercase a = lowercase b := by
  have hletters : a.toList.map Char.toLower = b.toList.map Char.toLower := beq_iff_eq.mp h
  rw [lowercase, lowercase, ← lowerFrom_map_toLower [] a.toList, hletters,
    lowerFrom_map_toLower [] b.toList]

end ZGrid.Text
