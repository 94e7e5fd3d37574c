import Mathlib.Data.List.DropRight
import ZGrid.Number.Reader
import ZGrid.Text.Blank
import ZGrid.Text.Fields

/-!
# Proofs/TrimmedFields — lists that are joined and cut again

```
   entries  ──joined──▸  text  ──cut at the separator──▸  fields  ──trimmed──▸  entries
```

Cutting undoes joining when no entry holds the separator, and blanks around the whole text are
blanks around its first and last field.  Numbers are written without blanks and separators, so they
survive both.
-/

namespace ZGrid

namespace Text

/-! ## Blanks at the ends -/

/-- A text without blanks at its ends. -/
def Trimmed (text : List Char) : Prop :=
  (∀ c ∈ text.head?, isBlank c = false) ∧ ∀ c ∈ text.getLast?, isBlank c = false

theorem trimChars_eq_rdropWhile (text : List Char) :
    trimChars text = (text.dropWhile isBlank).rdropWhile isBlank := rfl

theorem Trimmed.trimChars_eq {text : List Char} (h : Trimmed text) : trimChars text = text := by
  have hfront : text.dropWhile isBlank = text := by
    cases text with
    | nil => rfl
    | cons c rest => exact List.dropWhile_cons_of_neg (by simp [h.1 c rfl])
  rw [trimChars_eq_rdropWhile, hfront, List.rdropWhile_eq_self_iff]
  intro hne
  simp [h.2 _ (List.getLast?_eq_some_getLast hne)]

theorem trimmed_trimChars (text : List Char) : Trimmed (trimChars text) := by
  rw [trimChars_eq_rdropWhile]
  constructor
  · intro c hc
    -- The first character is the first one of the text without its leading blanks.
    obtain ⟨rest, hrest⟩ := List.head?_eq_some_iff.mp hc
    obtain ⟨last, hlast⟩ := List.rdropWhile_prefix isBlank (l := text.dropWhile isBlank)
    have hhead : (text.dropWhile isBlank).head? = some c := by
      rw [← hlast, hrest]
      rfl
    have hnot := List.head?_dropWhile_not isBlank text
    rw [hhead] at hnot
    simpa using hnot
  · intro c hc
    have hne : (text.dropWhile isBlank).rdropWhile isBlank ≠ [] := by
      rintro hnil
      simp [hnil] at hc
    have hlast := List.rdropWhile_last_not isBlank _ hne
    rw [List.getLast?_eq_some_getLast hne] at hc
    obtain rfl := Option.some.inj hc
    simpa using hlast

theorem trimmed_of_trimChars_eq {text : List Char} (h : trimChars text = text) : Trimmed text :=
  h ▸ trimmed_trimChars text

theorem isBlank_of_not_mem_dropWhile {text : List Char} {c : Char} (hc : c ∈ text)
    (h : c ∉ text.dropWhile isBlank) : isBlank c = true := by
  rw [← List.takeWhile_append_dropWhile (p := isBlank) (l := text), List.mem_append] at hc
  exact List.mem_takeWhile_imp (hc.resolve_right h)

theorem isBlank_of_not_mem_trimChars {text : List Char} {c : Char} (hc : c ∈ text)
    (h : c ∉ trimChars text) : isBlank c = true := by
  by_cases hfront : c ∈ text.dropWhile isBlank
  · rw [trimChars, List.mem_reverse] at h
    exact isBlank_of_not_mem_dropWhile (List.mem_reverse.mpr hfront) h
  · exact isBlank_of_not_mem_dropWhile hc hfront

theorem Trimmed.append_cons {separator : Char} (hblank : isBlank separator = false)
    {text rest : List Char} (htext : Trimmed text) (hrest : Trimmed rest) :
    Trimmed (text ++ separator :: rest) := by
  constructor
  · intro c hc
    cases text with
    | nil => exact Option.some.inj hc ▸ hblank
    | cons d text => exact htext.1 c hc
  · intro c hc
    rw [List.getLast?_append_of_ne_nil _ (List.cons_ne_nil _ _)] at hc
    cases rest with
    | nil => exact Option.some.inj hc ▸ hblank
    | cons d rest => exact hrest.2 c (by simpa using hc)

/-- A list of trimmed entries is written without blanks at its ends. -/
theorem Trimmed.intercalate {separator : Char} (hblank : isBlank separator = false)
    {entries : List (List Char)} (h : ∀ entry ∈ entries, Trimmed entry) :
    Trimmed ([separator].intercalate entries) := by
  induction entries with
  | nil => exact ⟨nofun, nofun⟩
  | cons entry entries ih =>
    rw [List.forall_mem_cons] at h
    cases entries with
    | nil => simpa [List.intercalate] using h.1
    | cons next entries =>
      rw [List.intercalate_cons_cons, List.append_assoc, List.singleton_append]
      exact h.1.append_cons hblank (ih h.2)

theorem trimChars_cons_of_isBlank {c : Char} (hc : isBlank c = true) (text : List Char) :
    trimChars (c :: text) = trimChars text := by
  rw [trimChars, List.dropWhile_cons_of_pos hc, trimChars]

theorem trimChars_concat_of_isBlank {c : Char} (hc : isBlank c = true) (text : List Char) :
    trimChars (text ++ [c]) = trimChars text := by
  induction text with
  | nil => exact trimChars_cons_of_isBlank hc []
  | cons d text ih =>
    cases hd : isBlank d with
    | true => rw [List.cons_append, trimChars_cons_of_isBlank hd, ih, trimChars_cons_of_isBlank hd]
    | false =>
      have hd' : ¬ isBlank d = true := by simp [hd]
      rw [trimChars_eq_rdropWhile, trimChars_eq_rdropWhile, List.cons_append,
        List.dropWhile_cons_of_neg hd', List.dropWhile_cons_of_neg hd', ← List.cons_append,
        List.rdropWhile_concat_pos _ _ _ hc]

/-! ## Cutting and joining -/

theorem fieldChars_eq_splitOn (separator : Char) (text : List Char) :
    fieldChars separator text = text.splitOn separator := by
  induction text with
  | nil => rfl
  | cons c rest ih =>
    rw [fieldChars, List.splitOn, List.splitOnP_cons_eq_if_modifyHead, ← List.splitOn, ← ih]
    by_cases hc : c = separator
    · simp [hc]
    · rw [if_neg hc, if_neg (by simpa using hc)]
      cases hfields : fieldChars separator rest with
      | nil => exact absurd hfields (fieldChars_ne_nil separator rest)
      | cons field fields => rfl

/-- **Joined and cut again.** -/
theorem fieldChars_intercalate {separator : Char} {entries : List (List Char)}
    (h : ∀ entry ∈ entries, separator ∉ entry) (hne : entries ≠ []) :
    fieldChars separator ([separator].intercalate entries) = entries := by
  rw [fieldChars_eq_splitOn, List.splitOn_intercalate separator h hne]

theorem fields_intercalate {separator : Char} {entries : List String}
    (h : ∀ entry ∈ entries, separator ∉ entry.toList) (hne : entries ≠ []) :
    fields separator ((String.singleton separator).intercalate entries) = entries := by
  have hchars : ∀ entry ∈ entries.map String.toList, separator ∉ entry := by
    intro entry hentry
    obtain ⟨entry, hmem, rfl⟩ := List.mem_map.mp hentry
    exact h entry hmem
  rw [fields, String.toList_intercalate, String.toList_singleton,
    fieldChars_intercalate hchars (by simpa using hne), List.map_map]
  exact (List.map_congr_left fun entry _ => String.ofList_toList).trans (List.map_id entries)

theorem fieldChars_cons_of_ne {separator c : Char} (hc : c ≠ separator) {text field : List Char}
    {fields : List (List Char)} (h : fieldChars separator text = field :: fields) :
    fieldChars separator (c :: text) = (c :: field) :: fields := by
  rw [fieldChars, if_neg hc, h]

/-- One more character goes to the last field. -/
theorem exists_fieldChars_concat {separator c : Char} (hc : c ≠ separator) (text : List Char) :
    ∃ (fields : List (List Char)) (last : List Char),
      fieldChars separator text = fields ++ [last] ∧
        fieldChars separator (text ++ [c]) = fields ++ [last ++ [c]] := by
  induction text with
  | nil => exact ⟨[], [], rfl, by simp [fieldChars, hc]⟩
  | cons d text ih =>
    obtain ⟨fields, last, htext, hmore⟩ := ih
    by_cases hd : d = separator
    · exact ⟨[] :: fields, last, by simp [fieldChars, hd, htext], by simp [fieldChars, hd, hmore]⟩
    · cases fields with
      | nil => exact ⟨[], d :: last, fieldChars_cons_of_ne hd htext, fieldChars_cons_of_ne hd hmore⟩
      | cons field fields =>
        exact ⟨(d :: field) :: fields, last, fieldChars_cons_of_ne hd htext,
          fieldChars_cons_of_ne hd hmore⟩

section Blanks

variable {separator : Char} (hblank : isBlank separator = false)
include hblank

theorem map_trimChars_fieldChars_cons {c : Char} (hc : isBlank c = true) (text : List Char) :
    (fieldChars separator (c :: text)).map trimChars
      = (fieldChars separator text).map trimChars := by
  have hne : c ≠ separator := fun h => by simp [h, hblank] at hc
  obtain ⟨field, fields, hfields⟩ :=
    List.exists_cons_of_ne_nil (fieldChars_ne_nil separator text)
  rw [fieldChars_cons_of_ne hne hfields, hfields, List.map_cons, List.map_cons,
    trimChars_cons_of_isBlank hc]

theorem map_trimChars_fieldChars_concat {c : Char} (hc : isBlank c = true) (text : List Char) :
    (fieldChars separator (text ++ [c])).map trimChars
      = (fieldChars separator text).map trimChars := by
  have hne : c ≠ separator := fun h => by simp [h, hblank] at hc
  obtain ⟨fields, last, htext, hmore⟩ := exists_fieldChars_concat hne text
  rw [htext, hmore, List.map_append, List.map_append, List.map_singleton, List.map_singleton,
    trimChars_concat_of_isBlank hc]

/-- **Blanks around a list.**  They are blanks around its first and its last entry. -/
theorem map_trimChars_fieldChars_trimChars (text : List Char) :
    (fieldChars separator (trimChars text)).map trimChars
      = (fieldChars separator text).map trimChars := by
  have hfront : (fieldChars separator (text.dropWhile isBlank)).map trimChars
      = (fieldChars separator text).map trimChars := by
    induction text with
    | nil => rfl
    | cons c text ih =>
      cases hc : isBlank c with
      | false => rw [List.dropWhile_cons_of_neg (by simp [hc])]
      | true =>
        rw [List.dropWhile_cons_of_pos hc, ih, map_trimChars_fieldChars_cons hblank hc]
  rw [← hfront, trimChars_eq_rdropWhile]
  generalize text.dropWhile isBlank = text
  induction text using List.reverseRecOn with
  | nil => rfl
  | append_singleton text c ih =>
    cases hc : isBlank c with
    | false => rw [List.rdropWhile_concat_neg _ _ _ (by simp [hc])]
    | true =>
      rw [List.rdropWhile_concat_pos _ _ _ hc, ih, map_trimChars_fieldChars_concat hblank hc]

theorem map_trim_fields_trim (text : String) :
    (fields separator (trim text)).map trim = (fields separator text).map trim := by
  have hchars : ∀ text : String, (fields separator text).map trim
      = ((fieldChars separator text.toList).map trimChars).map String.ofList := by
    intro text
    rw [fields, List.map_map, List.map_map]
    exact List.map_congr_left fun field _ => by simp [trim]
  rw [hchars, hchars, toList_trim, map_trimChars_fieldChars_trimChars hblank]

end Blanks

/-! ## ASCII capitals -/

/-- The ASCII capital at a place of the alphabet. -/
def capital (n : Nat) : Char := Char.ofNat ('A'.toNat + n)

theorem toLower_eq_self_or (c : Char) : c.toLower = c ∨ ∃ n < 26, c = capital n := by
  by_cases h : c.val ≥ 'A'.val ∧ c.val ≤ 'Z'.val
  · have hlow : 65 ≤ c.toNat := h.1
    have hhigh : c.toNat ≤ 90 := h.2
    refine .inr ⟨c.toNat - 65, by omega, ?_⟩
    rw [capital, show 'A'.toNat + (c.toNat - 65) = c.toNat from by
      change 65 + (c.toNat - 65) = c.toNat
      omega, Char.ofNat_toNat]
  · exact .inl (dif_neg h)

end Text

/-! ## Numbers in lists -/

open Text

/-- A character that is neither blank nor cuts a list. -/
def Solid (c : Char) : Prop := isBlank c = false ∧ c ≠ ',' ∧ c ≠ ';'

instance (c : Char) : Decidable (Solid c) := inferInstanceAs (Decidable (_ ∧ _))

theorem trimChars_eq_of_solid {text : List Char} (h : ∀ c ∈ text, Solid c) :
    trimChars text = text :=
  Trimmed.trimChars_eq
    ⟨fun c hc => (h c (List.mem_of_mem_head? hc)).1, fun c hc => (h c (List.mem_of_getLast? hc)).1⟩

theorem Digit.solid_of_ofChar? {c : Char} {digit : Digit} (h : ofChar? c = some digit) :
    Solid c := by
  have hsolid : ∀ code < 58, 48 ≤ code → Solid (Char.ofNat code) := by decide
  rw [ofChar?] at h
  split at h
  · rename_i hc
    have hlow : 48 ≤ c.toNat := hc.1
    have hhigh : c.toNat ≤ 57 := hc.2
    exact Char.ofNat_toNat c ▸ hsolid c.toNat (by omega) hlow
  · cases h

theorem Digit.solid_of_span (text : List Char) (h : ∀ c ∈ (Digit.span text).2, Solid c) :
    ∀ c ∈ text, Solid c := by
  induction text with
  | nil => nofun
  | cons c rest ih =>
    rw [Digit.span] at h
    split at h
    · rename_i digit hdigit
      exact List.forall_mem_cons.mpr ⟨Digit.solid_of_ofChar? hdigit, ih h⟩
    · exact h

namespace Number

theorem solid_of_digits? {text : List Char} {digits : List Digit}
    (h : digits? text = some digits) : ∀ c ∈ text, Solid c := by
  rw [digits?] at h
  split at h
  · rename_i digit more hspan
    exact Digit.solid_of_span text (by simp [hspan])
  · cases h

theorem solid_of_sign (text : List Char) (h : ∀ c ∈ (sign text).2, Solid c) :
    ∀ c ∈ text, Solid c := by
  rw [sign.eq_def] at h
  split at h
  · exact List.forall_mem_cons.mpr ⟨by decide, h⟩
  · exact List.forall_mem_cons.mpr ⟨by decide, h⟩
  · exact h

theorem solid_of_fraction (text : List Char) (h : ∀ c ∈ (fraction text).2, Solid c) :
    ∀ c ∈ text, Solid c := by
  rw [fraction.eq_def] at h
  split at h
  · exact List.forall_mem_cons.mpr ⟨by decide, Digit.solid_of_span _ h⟩
  · exact h

theorem solid_of_exponent? {text : List Char} {exponent : Int}
    (h : exponent? text = some exponent) : ∀ c ∈ text, Solid c := by
  obtain ⟨digits, hdigits, -⟩ := Option.map_eq_some_iff.mp h
  exact solid_of_sign text (solid_of_digits? hdigits)

theorem solid_of_numeral? {negative : Bool} {text : List Char} {numeral : Numeral}
    (h : numeral? negative text = some numeral) : ∀ c ∈ text, Solid c := by
  refine Digit.solid_of_span text (solid_of_fraction _ ?_)
  rw [numeral?] at h
  dsimp only at h
  split at h
  · cases h
  · split at h
    · rename_i hrest
      simp [hrest]
    · rename_i c rest hrest
      rw [hrest]
      split at h
      · rename_i hletter
        obtain ⟨exponent, hexponent, -⟩ := Option.map_eq_some_iff.mp h
        refine List.forall_mem_cons.mpr ⟨?_, solid_of_exponent? hexponent⟩
        rcases hletter with rfl | rfl <;> decide
      · cases h

theorem solid_of_word? {text : List Char} {x : Float} (h : word? text = some x) :
    ∀ c ∈ text, Solid c := by
  have hwords : ∀ word ∈ ["inf", "infinity", "nan"], word.toList.all (Solid ·) = true := by
    decide
  have hcapital : ∀ n < 26, Solid (capital n) := by decide
  have hword : String.ofList (text.map Char.toLower) ∈ ["inf", "infinity", "nan"] := by
    rw [word?] at h
    split at h
    · rename_i hword
      simp [hword]
    · rename_i hword
      simp [hword]
    · rename_i hword
      simp [hword]
    · cases h
  intro c hc
  rcases toLower_eq_self_or c with hself | ⟨n, hn, rfl⟩
  · have hmem : c.toLower ∈ text.map Char.toLower := List.mem_map_of_mem hc
    have hsolid := List.all_eq_true.mp (hwords _ hword) c.toLower (by rwa [String.toList_ofList])
    exact hself ▸ of_decide_eq_true hsolid
  · exact hcapital n hn

/-- **Numbers are solid.** -/
theorem solid_of_float? {text : List Char} {x : Float} (h : float? text = some x) :
    ∀ c ∈ text, Solid c := by
  rw [float?] at h
  refine solid_of_sign text ?_
  dsimp only at h
  split at h
  · rename_i hnumeral
    exact solid_of_numeral? hnumeral
  · obtain ⟨x, hword, -⟩ := Option.map_eq_some_iff.mp h
    exact solid_of_word? hword

theorem solid_of_int64? {text : List Char} {n : Int64} (h : int64? text = some n) :
    ∀ c ∈ text, Solid c := by
  obtain ⟨digits, hdigits, -⟩ := Option.bind_eq_some_iff.mp h
  exact solid_of_sign text (solid_of_digits? hdigits)

end Number

end ZGrid
