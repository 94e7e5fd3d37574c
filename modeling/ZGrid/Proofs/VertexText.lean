import ZGrid.Proofs.GlobeVertices
import ZGrid.Proofs.ResultRow
import ZGrid.Proofs.TrimmedFields
import ZGrid.Query.Text

/-!
# Proofs/VertexText — which texts are polygons, and why others are not

```
   text       1,2 ;; 3 , 4;  ;5,6
   segments   1,2   3 , 4   5,6          cut at semicolons, trimmed, the blank ones left out
   fields     1 2   3   4   5 6          cut at commas, trimmed
   vertices   (1, 2) (3, 4) (5, 6)
```

The three steps are said once more as relations (`HasSegments`, `HasFields`, `Spelled`), in terms of
joining and of blanks around a text: a text is cut into pieces if it is the pieces joined and no
piece holds the separator, and it is trimmed if nothing but blanks is left away.  What becomes of a
text is then told by its segments in order.  A segment that spells no vertex comes before a count,
and a count before a range, because each check waits for the one before it.
-/

namespace ZGrid

namespace Text

/-! ## Trimming and cutting -/

/-- A text is another one with blanks around it, and that one has no more at its ends. -/
def Pads (text core : List Char) : Prop :=
  Trimmed core ∧ ∃ front back : List Char, (∀ c ∈ front, isBlank c = true)
    ∧ (∀ c ∈ back, isBlank c = true) ∧ text = front ++ core ++ back

/-- A text is some pieces with separators between them, and no separator is in a piece. -/
def Cuts (separator : Char) (text : List Char) (pieces : List (List Char)) : Prop :=
  pieces ≠ [] ∧ (∀ piece ∈ pieces, separator ∉ piece) ∧ text = [separator].intercalate pieces

theorem trimChars_append_of_isBlank {front : List Char} (h : ∀ c ∈ front, isBlank c = true)
    (text : List Char) : trimChars (front ++ text) = trimChars text := by
  induction front with
  | nil => rfl
  | cons c front ih =>
    rw [List.forall_mem_cons] at h
    rw [List.cons_append, trimChars_cons_of_isBlank h.1, ih h.2]

theorem trimChars_append_of_isBlank_right {back : List Char} (h : ∀ c ∈ back, isBlank c = true)
    (text : List Char) : trimChars (text ++ back) = trimChars text := by
  induction back using List.reverseRecOn with
  | nil => rw [List.append_nil]
  | append_singleton back c ih =>
    rw [← List.append_assoc, trimChars_concat_of_isBlank (h c (by simp)),
      ih fun d hd => h d (List.mem_append_left _ hd)]

/-- **Trimming takes away the blanks around a text.** -/
theorem trimChars_eq_iff {text core : List Char} : trimChars text = core ↔ Pads text core := by
  constructor
  · rintro rfl
    refine ⟨trimmed_trimChars text, text.takeWhile isBlank,
      ((text.dropWhile isBlank).reverse.takeWhile isBlank).reverse, fun c hc => ?_,
      fun c hc => ?_, ?_⟩
    · exact List.mem_takeWhile_imp hc
    · exact List.mem_takeWhile_imp (List.mem_reverse.mp hc)
    · rw [trimChars, List.append_assoc, ← List.reverse_append, List.takeWhile_append_dropWhile,
        List.reverse_reverse, List.takeWhile_append_dropWhile]
  · rintro ⟨hcore, front, back, hfront, hback, rfl⟩
    rw [trimChars_append_of_isBlank_right hback, trimChars_append_of_isBlank hfront,
      hcore.trimChars_eq]

theorem not_mem_of_mem_fieldChars {separator : Char} {text piece : List Char}
    (h : piece ∈ fieldChars separator text) : separator ∉ piece := by
  induction text generalizing piece with
  | nil =>
    obtain rfl := List.mem_singleton.mp h
    exact List.not_mem_nil
  | cons c rest ih =>
    obtain ⟨field, fields, hfields⟩ :=
      List.exists_cons_of_ne_nil (fieldChars_ne_nil separator rest)
    by_cases hc : c = separator
    · rw [fieldChars, if_pos hc] at h
      obtain rfl | h := List.mem_cons.mp h
      · exact List.not_mem_nil
      · exact ih h
    · rw [fieldChars_cons_of_ne hc hfields] at h
      rw [hfields] at ih
      obtain rfl | h := List.mem_cons.mp h
      · exact List.not_mem_cons_of_ne_of_not_mem (Ne.symm hc) (ih List.mem_cons_self)
      · exact ih (List.mem_cons_of_mem _ h)

/-- **The fields of a text are the pieces that it is cut into.** -/
theorem fieldChars_eq_iff {separator : Char} {text : List Char} {pieces : List (List Char)} :
    fieldChars separator text = pieces ↔ Cuts separator text pieces := by
  constructor
  · rintro rfl
    refine ⟨fieldChars_ne_nil separator text, fun piece => not_mem_of_mem_fieldChars, ?_⟩
    rw [fieldChars_eq_splitOn, List.intercalate_splitOn]
  · rintro ⟨hne, hpieces, rfl⟩
    exact fieldChars_intercalate hpieces hne

end Text

namespace Query

open Text

/-! ## The parts of a text -/

/-- The fields of a segment are what stands between its commas, trimmed. -/
def HasFields (segment : List Char) (fields : List (List Char)) : Prop :=
  ∃ pieces, Cuts ',' segment pieces ∧ List.Forall₂ Pads pieces fields

/-- The segments of a text are what stands between its semicolons, trimmed, without what is nothing
but blanks. -/
def HasSegments (text : List Char) (segments : List (List Char)) : Prop :=
  ∃ pieces trimmed, Cuts ';' text pieces ∧ List.Forall₂ Pads pieces trimmed
    ∧ segments = trimmed.filter (· ≠ [])

/-- A segment of two fields that are the numbers of a vertex. -/
def Spelled (segment : List Char) (vertex : Point Float) : Prop :=
  ∃ longitude latitude, HasFields segment [longitude, latitude]
    ∧ Number.float? longitude = some vertex.x ∧ Number.float? latitude = some vertex.y

/-- Why the segment with a number spells no vertex. -/
inductive Malformed (index : Nat) (segment : List Char) : InputFault → Prop
  /-- It has other than two fields. -/
  | fieldCount {fields : List (List Char)} (hfields : HasFields segment fields)
      (hcount : fields.length ≠ 2) : Malformed index segment (.fieldCount index (.ofList segment))
  /-- The first of two fields is no number. -/
  | longitude {longitude latitude : List Char} (hfields : HasFields segment [longitude, latitude])
      (hnumber : Number.float? longitude = none) :
      Malformed index segment (.notNumeric index (.ofList longitude))
  /-- The first of two fields is a number, and the second is none. -/
  | latitude {longitude latitude : List Char} {x : Float}
      (hfields : HasFields segment [longitude, latitude])
      (hnumber : Number.float? longitude = some x) (hnumber' : Number.float? latitude = none) :
      Malformed index segment (.notNumeric index (.ofList latitude))

/-- Why a text is no polygon. -/
inductive Unreadable (text : List Char) : InputFault → Prop
  /-- A segment is the first that spells no vertex, whatever the vertices before it are. -/
  | malformed {before after : List (List Char)} {segment : List Char} {fault : InputFault}
      (hsegments : HasSegments text (before ++ segment :: after))
      (hbefore : ∀ earlier ∈ before, ∃ vertex, Spelled earlier vertex)
      (hmalformed : Malformed before.length segment fault) : Unreadable text fault
  /-- All segments spell vertices, and the vertices are unfit. -/
  | unfit {segments : List (List Char)} {vertices : List (Point Float)} {fault : InputFault}
      (hsegments : HasSegments text segments) (hspelled : List.Forall₂ Spelled segments vertices)
      (hunfit : Unfit vertices fault) : Unreadable text fault

/-- Two texts have the same fields, segment by segment: they differ in the blanks around fields and
in segments of nothing but blanks. -/
def SameFields (text other : List Char) : Prop :=
  ∃ segments others, HasSegments text segments ∧ HasSegments other others
    ∧ List.Forall₂ (fun a b => ∃ fields, HasFields a fields ∧ HasFields b fields) segments others

theorem map_trimChars_eq_iff {pieces trimmed : List (List Char)} :
    pieces.map trimChars = trimmed ↔ List.Forall₂ Pads pieces trimmed := by
  rw [← List.forall₂_eq_eq_eq, List.forall₂_map_left_iff]
  simp only [trimChars_eq_iff]

theorem hasFields_iff {segment : List Char} {fields : List (List Char)} :
    HasFields segment fields ↔ (fieldChars ',' segment).map trimChars = fields := by
  simp only [HasFields, ← fieldChars_eq_iff, ← map_trimChars_eq_iff, exists_eq_left']

theorem hasSegments_iff {text : List Char} {parts : List (List Char)} :
    HasSegments text parts ↔ segments text = parts := by
  constructor
  · rintro ⟨pieces, trimmed, hpieces, htrimmed, rfl⟩
    rw [segments, fieldChars_eq_iff.mpr hpieces, map_trimChars_eq_iff.mpr htrimmed]
  · rintro rfl
    exact ⟨_, _, fieldChars_eq_iff.mp rfl, map_trimChars_eq_iff.mp rfl, rfl⟩

/-! ## One segment -/

variable {index : Nat} {segment : List Char} {vertex : Point Float} {fault : InputFault}
  {error : Error}

theorem Spelled.readVertex_eq (h : Spelled segment vertex) (index : Nat) :
    readVertex index segment = .ok vertex := by
  obtain ⟨longitude, latitude, hfields, hx, hy⟩ := h
  rw [readVertex, hasFields_iff.mp hfields]
  simp only [readNumber, hx, hy]
  rfl

theorem Malformed.readVertex_eq (h : Malformed index segment fault) :
    readVertex index segment = .error (.invalidInput fault) := by
  rw [readVertex]
  cases h with
  | @fieldCount fields hfields hcount =>
    rw [hasFields_iff.mp hfields]
    split
    · exact absurd rfl hcount
    · rfl
  | longitude hfields hnumber =>
    rw [hasFields_iff.mp hfields]
    simp only [readNumber, hnumber]
    rfl
  | latitude hfields hnumber hnumber' =>
    rw [hasFields_iff.mp hfields]
    simp only [readNumber, hnumber, hnumber']
    rfl

/-- **A segment spells a vertex, or there is a reason why not.** -/
theorem spelled_or_malformed (index : Nat) (segment : List Char) :
    (∃ vertex, Spelled segment vertex) ∨ ∃ fault, Malformed index segment fault := by
  obtain ⟨fields, hfields⟩ : ∃ fields, HasFields segment fields := ⟨_, hasFields_iff.mpr rfl⟩
  by_cases hcount : fields.length = 2
  · obtain ⟨longitude, latitude, rfl⟩ := List.length_eq_two.mp hcount
    cases hx : Number.float? longitude with
    | none => exact .inr ⟨_, .longitude hfields hx⟩
    | some x =>
      cases hy : Number.float? latitude with
      | none => exact .inr ⟨_, .latitude hfields hx hy⟩
      | some y => exact .inl ⟨⟨x, y⟩, longitude, latitude, hfields, hx, hy⟩
  · exact .inr ⟨_, .fieldCount hfields hcount⟩

theorem readVertex_eq_ok_iff : readVertex index segment = .ok vertex ↔ Spelled segment vertex := by
  refine ⟨fun h => ?_, fun h => h.readVertex_eq index⟩
  obtain ⟨other, hspelled⟩ | ⟨fault, hmalformed⟩ := spelled_or_malformed index segment
  · obtain rfl : other = vertex := Except.ok.inj ((hspelled.readVertex_eq index).symm.trans h)
    exact hspelled
  · rw [hmalformed.readVertex_eq] at h
    cases h

theorem readVertex_eq_error_iff : readVertex index segment = .error error
    ↔ ∃ fault, Malformed index segment fault ∧ error = .invalidInput fault := by
  constructor
  · intro h
    obtain ⟨other, hspelled⟩ | ⟨fault, hmalformed⟩ := spelled_or_malformed index segment
    · rw [hspelled.readVertex_eq] at h
      cases h
    · rw [hmalformed.readVertex_eq] at h
      exact ⟨fault, hmalformed, (Except.error.inj h).symm⟩
  · rintro ⟨fault, hmalformed, rfl⟩
    exact hmalformed.readVertex_eq

/-! ## All segments -/

variable {parts : List (List Char)} {vertices : List (Point Float)}

theorem readVertices_eq_mapM (index : Nat) (parts : List (List Char)) : readVertices index parts
    = (parts.zipIdx index).mapM fun part => readVertex part.2 part.1 := by
  induction parts generalizing index with
  | nil => rfl
  | cons part parts ih => rw [readVertices, List.zipIdx_cons, List.mapM_cons, ih]

theorem readVertices_eq_ok_iff :
    readVertices index parts = .ok vertices ↔ List.Forall₂ Spelled parts vertices := by
  rw [readVertices_eq_mapM, mapM_eq_ok_iff]
  simp only [readVertex_eq_ok_iff]
  rw [← List.forall₂_map_left_iff, List.zipIdx_map_fst]

/-- **The first segment that spells no vertex**, under its number. -/
theorem readVertices_eq_error_iff : readVertices index parts = .error error
    ↔ ∃ before part after fault, parts = before ++ part :: after
      ∧ (∀ earlier ∈ before, ∃ vertex, Spelled earlier vertex)
      ∧ Malformed (index + before.length) part fault ∧ error = .invalidInput fault := by
  have hspelled : ∀ before : List (List Char),
      (∀ earlier ∈ before.zipIdx index, ∃ vertex, Spelled earlier.1 vertex)
        ↔ ∀ earlier ∈ before, ∃ vertex, Spelled earlier vertex := by
    intro before
    rw [← List.forall_mem_map (f := Prod.fst)
      (P := fun earlier => ∃ vertex, Spelled earlier vertex), List.zipIdx_map_fst]
  rw [readVertices_eq_mapM, mapM_zipIdx_eq_error_iff]
  simp only [readVertex_eq_ok_iff, readVertex_eq_error_iff, hspelled]
  constructor
  · rintro ⟨before, part, after, hparts, hbefore, fault, hmalformed, herror⟩
    exact ⟨before, part, after, fault, hparts, hbefore, hmalformed, herror⟩
  · rintro ⟨before, part, after, fault, hparts, hbefore, hmalformed, herror⟩
    exact ⟨before, part, after, hparts, hbefore, fault, hmalformed, herror⟩

/-! ## Texts -/

variable {text : String}

theorem ofText_of_spelled (hsegments : HasSegments text.toList parts)
    (hspelled : List.Forall₂ Spelled parts vertices) :
    ofText text = (checkVertices vertices).map fun _ => vertices := by
  rw [ofText, hasSegments_iff.mp hsegments, readVertices_eq_ok_iff.mpr hspelled]
  change (checkVertices vertices >>= fun _ => pure vertices) = _
  cases checkVertices vertices <;> rfl

theorem ofText_of_malformed {before after : List (List Char)}
    (hsegments : HasSegments text.toList (before ++ segment :: after))
    (hbefore : ∀ earlier ∈ before, ∃ vertex, Spelled earlier vertex)
    (hmalformed : Malformed before.length segment fault) :
    ofText text = .error (.invalidInput fault) := by
  have hread : readVertices 0 (before ++ segment :: after) = .error (.invalidInput fault) :=
    readVertices_eq_error_iff.mpr
      ⟨before, segment, after, fault, rfl, hbefore, by rwa [Nat.zero_add], rfl⟩
  rw [ofText, hasSegments_iff.mp hsegments, hread]
  rfl

/-- The segments of a text spell vertices, or there is a first one that does not. -/
theorem spelled_or_unreadable (text : String) :
    (∃ parts vertices, HasSegments text.toList parts ∧ List.Forall₂ Spelled parts vertices)
      ∨ ∃ fault, Unreadable text.toList fault ∧ ofText text = .error (.invalidInput fault) := by
  have hsegments := hasSegments_iff.mpr (Eq.refl (segments text.toList))
  cases hread : readVertices 0 (segments text.toList) with
  | ok vertices => exact .inl ⟨_, vertices, hsegments, readVertices_eq_ok_iff.mp hread⟩
  | error error =>
    obtain ⟨before, part, after, fault, hparts, hbefore, hmalformed, rfl⟩ :=
      readVertices_eq_error_iff.mp hread
    rw [hparts] at hsegments
    rw [Nat.zero_add] at hmalformed
    exact .inr ⟨fault, .malformed hsegments hbefore hmalformed,
      ofText_of_malformed hsegments hbefore hmalformed⟩

theorem ofText_eq_ok_iff : ofText text = .ok vertices
    ↔ ∃ parts, HasSegments text.toList parts ∧ List.Forall₂ Spelled parts vertices
      ∧ 3 ≤ vertices.length ∧ ∀ vertex ∈ vertices, vertex.OnGlobe := by
  constructor
  · intro h
    obtain ⟨parts, read, hsegments, hspelled⟩ | ⟨fault, -, hfault⟩ := spelled_or_unreadable text
    · rw [ofText_of_spelled hsegments hspelled] at h
      cases hcheck : checkVertices read with
      | error error =>
        rw [hcheck] at h
        cases h
      | ok =>
        rw [hcheck] at h
        obtain rfl : read = vertices := Except.ok.inj h
        exact ⟨parts, hsegments, hspelled, checkVertices_eq_ok_iff.mp hcheck⟩
    · rw [hfault] at h
      cases h
  · rintro ⟨parts, hsegments, hspelled, hfit⟩
    rw [ofText_of_spelled hsegments hspelled, checkVertices_eq_ok_iff.mpr hfit]
    rfl

theorem ofText_eq_error_iff : ofText text = .error error
    ↔ ∃ fault, Unreadable text.toList fault ∧ error = .invalidInput fault := by
  constructor
  · intro h
    obtain ⟨parts, read, hsegments, hspelled⟩ | ⟨fault, hfault, heq⟩ := spelled_or_unreadable text
    · rw [ofText_of_spelled hsegments hspelled] at h
      cases hcheck : checkVertices read with
      | ok =>
        rw [hcheck] at h
        cases h
      | error error =>
        obtain ⟨fault, hunfit, rfl⟩ := checkVertices_eq_error_iff.mp hcheck
        rw [hcheck] at h
        exact ⟨fault, .unfit hsegments hspelled hunfit, (Except.error.inj h).symm⟩
    · exact ⟨fault, hfault, Except.error.inj (h.symm.trans heq)⟩
  · rintro ⟨fault, hfault, rfl⟩
    cases hfault with
    | malformed hsegments hbefore hmalformed =>
      exact ofText_of_malformed hsegments hbefore hmalformed
    | unfit hsegments hspelled hunfit =>
      rw [ofText_of_spelled hsegments hspelled,
        checkVertices_eq_error_iff.mpr ⟨_, hunfit, rfl⟩]
      rfl

theorem HasFields.unique {fields others : List (List Char)} (h : HasFields segment fields)
    (h' : HasFields segment others) : fields = others :=
  (hasFields_iff.mp h).symm.trans (hasFields_iff.mp h')

theorem Spelled.of_fields {other : List Char} {fields : List (List Char)}
    (hfields : HasFields segment fields) (hother : HasFields other fields)
    (h : Spelled segment vertex) : Spelled other vertex := by
  obtain ⟨longitude, latitude, hpair, hnumbers⟩ := h
  obtain rfl := hpair.unique hfields
  exact ⟨longitude, latitude, hother, hnumbers⟩

theorem SameFields.symm {text other : List Char} (h : SameFields text other) :
    SameFields other text := by
  obtain ⟨parts, others, htext, hother, hfields⟩ := h
  refine ⟨others, parts, hother, htext, hfields.flip.imp fun a b => ?_⟩
  rintro ⟨fields, hb, ha⟩
  exact ⟨fields, ha, hb⟩

/-- **Blanks around fields and blank segments do not count.** -/
theorem SameFields.ofText_eq_ok {text other : String} (h : SameFields text.toList other.toList)
    (htext : ofText text = .ok vertices) : ofText other = .ok vertices := by
  obtain ⟨parts, others, hparts, hothers, hfields⟩ := h
  obtain ⟨read, hread, hspelled, hfit⟩ := ofText_eq_ok_iff.mp htext
  obtain rfl := (hasSegments_iff.mp hread).symm.trans (hasSegments_iff.mp hparts)
  refine ofText_eq_ok_iff.mpr ⟨others, hothers, ?_, hfit⟩
  clear * - hfields hspelled
  induction hfields generalizing vertices with
  | nil => exact hspelled
  | cons hsame _ ih =>
    obtain ⟨fields, hfields, hother⟩ := hsame
    obtain ⟨vertex, rest, hvertex, hrest, rfl⟩ := List.forall₂_cons_left_iff.mp hspelled
    exact .cons (hvertex.of_fields hfields hother) (ih hrest)

/-- **A text is read in one way.**  It has the vertices that its segments spell, if these are three
or more and all of them on the globe, and no others; it is refused for the first reason there is,
and a malformed segment comes before a count and a range.  Texts of the same fields are read
alike. -/
theorem read_uniquely (text : String) :
    (∀ vertices, ofText text = .ok vertices
      ↔ ∃ parts, HasSegments text.toList parts ∧ List.Forall₂ Spelled parts vertices
        ∧ 3 ≤ vertices.length ∧ ∀ vertex ∈ vertices, vertex.OnGlobe)
    ∧ (∀ error, ofText text = .error error
      ↔ ∃ fault, Unreadable text.toList fault ∧ error = .invalidInput fault)
    ∧ ∀ other : String, SameFields text.toList other.toList →
      ∀ vertices, ofText text = .ok vertices ↔ ofText other = .ok vertices :=
  ⟨fun _ => ofText_eq_ok_iff, fun _ => ofText_eq_error_iff,
    fun _ hsame _ => ⟨hsame.ofText_eq_ok, hsame.symm.ofText_eq_ok⟩⟩

private theorem spelled_nan : ∃ vertex, Spelled "nan,0".toList vertex := by
  have hnan : (Number.float? ['n', 'a', 'n']).isSome = true := by decide +kernel
  have hzero : Number.float? ['0'] = some 0 := by decide +kernel
  exact ⟨⟨_, 0⟩, ['n', 'a', 'n'], ['0'], hasFields_iff.mpr (by decide +kernel),
    (Option.some_get hnan).symm, hzero⟩

private theorem spelled_plain : List.Forall₂ Spelled ["1,2".toList, "3,4e0".toList, "5,.6".toList]
    [⟨1, 2⟩, ⟨3, 4⟩, ⟨5, 0.6⟩] := by
  refine .cons ⟨['1'], ['2'], hasFields_iff.mpr ?_, ?_⟩
    (.cons ⟨['3'], ['4', 'e', '0'], hasFields_iff.mpr ?_, ?_⟩
    (.cons ⟨['5'], ['.', '6'], hasFields_iff.mpr ?_, ?_⟩ .nil))
  all_goals decide +kernel

private theorem sameFields_padded :
    SameFields "1,2;3,4e0;5,.6".toList " 1,2 ;;\t3 , 4e0; \u3000;5,.6;".toList := by
  refine ⟨["1,2".toList, "3,4e0".toList, "5,.6".toList],
    ["1,2".toList, "3 , 4e0".toList, "5,.6".toList], hasSegments_iff.mpr (by decide +kernel),
    hasSegments_iff.mpr (by decide +kernel), ?_⟩
  refine .cons ⟨_, hasFields_iff.mpr rfl, hasFields_iff.mpr ?_⟩
    (.cons ⟨_, hasFields_iff.mpr rfl, hasFields_iff.mpr ?_⟩
    (.cons ⟨_, hasFields_iff.mpr rfl, hasFields_iff.mpr ?_⟩ .nil))
  all_goals decide +kernel

theorem read_uniquely_padded :
    SameFields "1,2;3,4e0;5,.6".toList " 1,2 ;;\t3 , 4e0; \u3000;5,.6;".toList
      ∧ ofText " 1,2 ;;\t3 , 4e0; \u3000;5,.6;" = .ok [⟨1, 2⟩, ⟨3, 4⟩, ⟨5, 0.6⟩]
      ∧ ofText "nan,0;;1;2,x" = .error (.invalidInput (.fieldCount 1 "1")) := by
  have hglobe : ∀ vertex ∈ ([⟨1, 2⟩, ⟨3, 4⟩, ⟨5, 0.6⟩] : List (Point Float)), vertex.OnGlobe :=
    (@vertexFault?_eq_none_iff _ 0).mp (by decide +kernel)
  obtain ⟨hok, -, hpadded⟩ := read_uniquely "1,2;3,4e0;5,.6"
  refine ⟨sameFields_padded, ?_, ?_⟩
  · exact (hpadded _ sameFields_padded _).mp ((hok _).mpr
      ⟨_, hasSegments_iff.mpr (by decide +kernel), spelled_plain, by decide, hglobe⟩)
  · have hsegments : HasSegments "nan,0;;1;2,x".toList (["nan,0".toList] ++ ['1'] :: ["2,x".toList])
        := hasSegments_iff.mpr (by decide +kernel)
    exact ((read_uniquely "nan,0;;1;2,x").2.1 _).mpr ⟨_, .malformed hsegments
      (List.forall_mem_singleton.mpr spelled_nan) (.fieldCount (hasFields_iff.mpr rfl) (by decide)),
      rfl⟩

end Query

end ZGrid
