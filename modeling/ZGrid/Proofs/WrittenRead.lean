import Mathlib.Data.List.Forall2
import Mathlib.Data.List.Nodup
import Mathlib.Tactic.SplitIfs
import ZGrid.Json.Printer
import ZGrid.Json.Record
import ZGrid.Proofs.NumeralText

/-!
# Proofs/WrittenRead — what is written is read back

A reader **takes** a text for a value if, whatever blanks stand before the text and whatever may
follow a value behind it, the reader makes the value and leaves just what follows:

```
   blanks   text   rest          rest: nothing, a blank, a comma, a closing bracket
            └─ value
```

Readers of lists and records take the texts of lists and records when the readers of their items
and members take the parts (`takes_list`, `takes_record`), with any blanks between the parts.  So a
value is read back from both of its texts, the compact one and the indented one.
-/

namespace ZGrid.Json

namespace Reader

variable {α : Type}

/-- What may follow a value. -/
def Closes (rest : List Char) : Prop :=
  ∀ c ∈ rest.head?, isBlank c = true ∨ c = ',' ∨ c = ']' ∨ c = '}'

theorem closes_nil : Closes [] := nofun

theorem closes_cons {c : Char} (h : c = ',' ∨ c = ']' ∨ c = '}') (rest : List Char) :
    Closes (c :: rest) := by
  rintro _ ⟨⟩
  exact .inr h

theorem Blanks.closes_append {blanks rest : List Char} (hblanks : Blanks blanks)
    (hrest : Closes rest) : Closes (blanks ++ rest) := by
  cases blanks with
  | nil => exact hrest
  | cons c blanks =>
    rintro _ ⟨⟩
    exact .inl (hblanks c List.mem_cons_self)

theorem Closes.endsNumber {rest : List Char} (h : Closes rest) : EndsNumber rest := by
  intro c hc
  obtain hblank | rfl | rfl | rfl := h c hc
  · simp only [isBlank, Bool.or_eq_true, beq_iff_eq] at hblank
    obtain ((rfl | rfl) | rfl) | rfl := hblank <;> decide
  · decide
  · decide
  · decide

/-- The reader makes the value of the text and leaves what follows. -/
structure Takes (reader : Reader α) (text : List Char) (value : α) : Prop where
  /-- The text begins neither with a blank nor with the end of a list. -/
  begins : ∃ c tail, text = c :: tail ∧ isBlank c = false ∧ c ≠ ']'
  /-- The text is read. -/
  reads : ∀ {rounds blanks rest}, text.length ≤ rounds → Blanks blanks → Closes rest →
    reader rounds (blanks ++ (text ++ rest)) = .ok (value, rest)

/-- **A document is read as it was written.** -/
theorem Takes.document {reader : Reader α} {text : String} {value : α}
    (h : Takes reader text.toList value) : document reader text = .ok value := by
  have hread := h.reads (Nat.le_refl _) blanks_nil closes_nil
  rw [List.append_nil, List.nil_append] at hread
  rw [Reader.document]
  change Except.bind (reader text.toList.length text.toList) _ = _
  rw [hread]
  rfl

theorem Takes.map {β : Type} {reader : Reader α} {text : List Char} {value : α}
    (h : Takes reader text value) (f : α → β) : Takes (do return f (← reader)) text (f value) where
  begins := h.begins
  reads := fun hrounds hblanks hrest => by
    rw [bind_of_ok (h.reads hrounds hblanks hrest)]
    rfl

/-! ## Punctuation -/

theorem expect_append {c : Char} (hc : isBlank c = false) {blanks : List Char}
    (hblanks : Blanks blanks) (rounds : Nat) (rest : List Char) :
    expect c rounds (blanks ++ c :: rest) = .ok ((), rest) := by
  rw [expect, bind_of_ok (peek_append hblanks (by rintro _ ⟨⟩; exact hc) rounds)]
  rw [if_pos (show (c :: rest).head? = some c from rfl)]
  rfl

theorem expect_cons {c : Char} (hc : isBlank c = false) (rounds : Nat) (rest : List Char) :
    expect c rounds (c :: rest) = .ok ((), rest) :=
  expect_append hc blanks_nil rounds rest

/-! ## Numbers -/

theorem takes_integer {least greatest value : Int} (hleast : least ≤ value)
    (hgreatest : value ≤ greatest) :
    Takes (integer least greatest) (ofInt value).compact value where
  begins := by
    obtain ⟨c, tail, htext, hc⟩ := exists_toChars_eq
      (p := fun c => isBlank c = false ∧ c ≠ ']') (by decide) (by decide) _ (.ofInt value)
    exact ⟨c, tail, htext, hc⟩
  reads := fun _ hblanks hrest => integer_toChars _ hleast hgreatest hblanks hrest.endsNumber _

/-! ## Strings -/

/-- A character before the others of a string. -/
def withFirst (c : Char) (read : Option (List Char × List Char)) : Option (List Char × List Char) :=
  read.map fun (chars, rest) => (c :: chars, rest)

theorem bind_eq_withFirst (c : Char) (read : Option (List Char × List Char)) :
    (do let (chars, rest) ← read; return (c :: chars, rest)) = withFirst c read := by
  cases read <;> rfl

/-- A character that needs no escape. -/
theorem stringChars_plain {c : Char} (hquote : c ≠ '"') (hescape : c ≠ '\\') (hlow : ¬ c < ' ')
    (rest : List Char) : stringChars (c :: rest) = withFirst c (stringChars rest) := by
  rw [stringChars, if_neg (by simp [hlow, hescape]), bind_eq_withFirst]
  · exact hquote
  · rintro _ _ _ _ _ rfl
    exact absurd rfl hescape
  · rintro _ _ rfl
    exact absurd rfl hescape

/-- A control character, written with its number. -/
theorem stringChars_control {c : Char} (hlow : c.toNat < 32) (rest : List Char) :
    stringChars ('\\' :: 'u' :: '0' :: '0' :: Nat.digitChar (c.toNat / 16)
      :: Nat.digitChar (c.toNat % 16) :: rest) = withFirst c (stringChars rest) := by
  have hhex : ∀ n < 32, hex4? '0' '0' (Nat.digitChar (n / 16)) (Nat.digitChar (n % 16)) = some n
      ∧ isLowHalf n = false ∧ isHighHalf n = false := by decide
  obtain ⟨hunit, hlowHalf, hhighHalf⟩ := hhex c.toNat hlow
  rw [stringChars, hunit]
  change (if isLowHalf c.toNat = true then none else _) = _
  rw [hlowHalf, hhighHalf, if_neg Bool.false_ne_true, if_neg Bool.false_ne_true, bind_eq_withFirst,
    Char.ofNat_toNat]

/-- **A character is read from its escape.** -/
theorem stringChars_escape (c : Char) (rest : List Char) :
    stringChars (escape c ++ rest) = withFirst c (stringChars rest) := by
  rw [escape]
  split_ifs with hquote hescape hback htab hline hpage hreturn hlow
  · subst hquote
    exact bind_eq_withFirst ..
  · subst hescape
    exact bind_eq_withFirst ..
  · subst hback
    exact bind_eq_withFirst ..
  · subst htab
    exact bind_eq_withFirst ..
  · subst hline
    exact bind_eq_withFirst ..
  · subst hpage
    exact bind_eq_withFirst ..
  · subst hreturn
    exact bind_eq_withFirst ..
  · exact stringChars_control hlow rest
  · exact stringChars_plain hquote hescape hlow rest

theorem stringChars_flatMap (text rest : List Char) :
    stringChars (text.flatMap escape ++ '"' :: rest) = some (text, rest) := by
  induction text with
  | nil => simp [stringChars]
  | cons c text ih =>
    rw [List.flatMap_cons, List.append_assoc, stringChars_escape, ih]
    rfl

/-- **A string is read as it was written**, whatever follows. -/
theorem string_quote (text : String) {blanks : List Char} (hblanks : Blanks blanks) (rounds : Nat)
    (rest : List Char) : string rounds (blanks ++ (quote text ++ rest)) = .ok (text, rest) := by
  have hchars : string.inString rounds (text.toList.flatMap escape ++ '"' :: rest)
      = .ok (text.toList, rest) := by
    rw [string.inString, stringChars_flatMap]
  rw [quote, string, List.cons_append, List.append_assoc, List.cons_append, List.nil_append,
    bind_of_ok (expect_append (by decide) hblanks rounds _), bind_of_ok hchars,
    String.ofList_toList]
  rfl

/-! ## Lists -/

theorem join_cons_cons (separator first second : List Char) (rest : List (List Char)) :
    join separator (first :: second :: rest)
      = first ++ separator ++ join separator (second :: rest) := rfl

theorem length_le_length_join (separator text : List Char) (rest : List (List Char)) :
    text.length ≤ (join separator (text :: rest)).length
      ∧ (join separator rest).length ≤ (join separator (text :: rest)).length := by
  cases rest with
  | nil => simp [join]
  | cons second rest =>
    rw [join_cons_cons, List.length_append, List.length_append]
    omega

/-- Each text but the last has a separator behind it. -/
theorem length_le_length_join_succ (c : Char) (separator : List Char) (texts : List (List Char)) :
    texts.length ≤ (join (c :: separator) texts).length + 1 := by
  induction texts with
  | nil => simp
  | cons first rest ih =>
    cases rest with
    | nil => simp
    | cons second rest =>
      rw [join_cons_cons, List.length_append, List.length_append]
      simp only [List.length_cons] at ih ⊢
      omega

theorem compactItems_eq_map (items : List Json) : compactItems items = items.map compact := by
  induction items with
  | nil => rfl
  | cons item items ih => rw [compactItems, ih, List.map_cons]

section List

variable {item : Reader α} {texts : List (List Char)} {values : List α}
  {before between after : List Char}

/-- The items of a list are read up to its end. -/
theorem items_join (h : List.Forall₂ (Takes item) texts values) (hne : texts ≠ [])
    (hbetween : Blanks between) (hafter : Blanks after) {rounds count : Nat}
    (hrounds : (join (',' :: between) texts).length ≤ rounds) (hcount : texts.length ≤ count)
    {blanks : List Char} (hblanks : Blanks blanks) (rest : List Char) :
    items item count rounds
      (blanks ++ (join (',' :: between) texts ++ (after ++ ']' :: rest))) = .ok (values, rest) := by
  induction h generalizing count blanks with
  | nil => exact absurd rfl hne
  | @cons text value texts values htakes htail ih =>
    obtain ⟨count, rfl⟩ : ∃ fewer, count = fewer + 1 := ⟨count - 1, by simp at hcount; omega⟩
    obtain ⟨hfirst, hmore⟩ := length_le_length_join (',' :: between) text texts
    have hlength := Nat.le_trans hfirst hrounds
    cases htail with
    | nil =>
      rw [items, join, bind_of_ok (htakes.reads hlength hblanks
        (hafter.closes_append (closes_cons (by decide) rest))),
        bind_of_ok (peek_append hafter (by rintro _ ⟨⟩; decide) rounds)]
      rfl
    | @cons second _ more _ _ _ =>
      have hrest := ih (by simp) (Nat.le_trans hmore hrounds) (Nat.le_of_succ_le_succ hcount)
        hbetween
      rw [items, join_cons_cons, List.append_assoc, List.append_assoc, List.cons_append,
        bind_of_ok (htakes.reads hlength hblanks (closes_cons (by decide) _)),
        bind_of_ok (peek_cons (by decide) rounds _)]
      exact bind_of_ok hrest fun values => pure (value :: values)

theorem exists_join_eq {first : List Char} (separator : List Char) (rest : List (List Char))
    {p : Char → Prop} (h : ∃ c tail, first = c :: tail ∧ p c) :
    ∃ c tail, join separator (first :: rest) = c :: tail ∧ p c := by
  obtain ⟨c, tail, rfl, hc⟩ := h
  cases rest with
  | nil => exact ⟨c, tail, rfl, hc⟩
  | cons => exact ⟨c, _, rfl, hc⟩

theorem list_close (item : Reader α) (hbefore : Blanks before) (hafter : Blanks after)
    {blanks : List Char} (hblanks : Blanks blanks) (rounds : Nat) (rest : List Char) :
    list item rounds (blanks ++ '[' :: (before ++ (after ++ ']' :: rest))) = .ok ([], rest) := by
  have hboth : Blanks (before ++ after) := fun c hc =>
    (List.mem_append.mp hc).elim (hbefore c) (hafter c)
  rw [list, bind_of_ok (expect_append (by decide) hblanks rounds _), ← List.append_assoc,
    bind_of_ok (peek_append hboth (by rintro _ ⟨⟩; decide) rounds),
    if_pos (show (']' :: rest).head? = some ']' from rfl)]
  rfl

theorem list_join (h : List.Forall₂ (Takes item) texts values) (hne : texts ≠ [])
    (hbefore : Blanks before) (hbetween : Blanks between) (hafter : Blanks after) {rounds : Nat}
    (hrounds : (join (',' :: between) texts).length < rounds) {blanks : List Char}
    (hblanks : Blanks blanks) (rest : List Char) : list item rounds (blanks
      ++ '[' :: (before ++ (join (',' :: between) texts ++ (after ++ ']' :: rest))))
      = .ok (values, rest) := by
  have hcount : texts.length ≤ rounds :=
    Nat.le_trans (length_le_length_join_succ ',' between texts) hrounds
  have hitems := items_join h hne hbetween hafter (Nat.le_of_lt hrounds) hcount blanks_nil rest
  cases h with
  | nil => exact absurd rfl hne
  | @cons text _ more _ htakes _ =>
    -- The first item tells the list from an empty one.
    obtain ⟨c, tail, htext, hblank, hopen⟩ := exists_join_eq (',' :: between) more htakes.begins
    rw [htext] at hitems ⊢
    rw [list, bind_of_ok (expect_append (by decide) hblanks rounds _),
      bind_of_ok (peek_append hbefore (by rintro _ ⟨⟩; exact hblank) rounds),
      if_neg (by simpa using hopen), bind_of_ok rfl]
    exact hitems

/-- **A list is read as it was written**, with any blanks between its pieces. -/
theorem takes_list (h : List.Forall₂ (Takes item) texts values) (hbefore : Blanks before)
    (hbetween : Blanks between) (hafter : Blanks after) : Takes (list item)
      ('[' :: (before ++ (join (',' :: between) texts ++ (after ++ [']'])))) values where
  begins := ⟨'[', _, rfl, by decide, by decide⟩
  reads := by
    intro rounds blanks rest hrounds hblanks _
    simp only [List.length_cons, List.length_append] at hrounds
    simp only [List.cons_append, List.append_assoc, List.nil_append]
    by_cases hne : texts = []
    · subst hne
      cases h
      exact list_close item hbefore hafter hblanks rounds rest
    · exact list_join h hne hbefore hbetween hafter (by omega) hblanks rest

end List

end Reader

/-! ## Records -/

namespace Record

open Reader

variable {σ : Type} {record : Record σ}

/-- The members read the texts in order, each going on from the state of the one before. -/
inductive Fills : List (Member σ) → List (List Char) → σ → σ → Prop
  /-- No member is left. -/
  | nil (state : σ) : Fills [] [] state state
  /-- A member reads a text, and the others go on. -/
  | cons {member : Member σ} {members : List (Member σ)} {text : List Char}
      {texts : List (List Char)} {start next stop : σ} (takes : Takes (member.read start) text next)
      (rest : Fills members texts next stop) :
      Fills (member :: members) (text :: texts) start stop

theorem Fills.length_eq {members : List (Member σ)} {texts : List (List Char)} {start stop : σ}
    (h : Fills members texts start stop) : members.length = texts.length := by
  induction h with
  | nil => rfl
  | cons _ _ ih => rw [List.length_cons, List.length_cons, ih]

/-- A member with its name, the value some blanks behind the colon. -/
def memberText (gap : List Char) (member : Member σ) (text : List Char) : List Char :=
  quote member.name ++ ':' :: (gap ++ text)

/-- The first member begins with a quote. -/
theorem Fills.exists_join_eq {members : List (Member σ)} {texts : List (List Char)} {start stop : σ}
    (h : Fills members texts start stop) (hne : members ≠ []) (gap separator : List Char) :
    ∃ tail, join separator (List.zipWith (memberText gap) members texts) = '"' :: tail := by
  cases h with
  | nil => exact absurd rfl hne
  | cons _ rest => cases rest <;> exact ⟨_, rfl⟩

theorem length_le_length_memberText (gap : List Char) (member : Member σ) (text : List Char) :
    text.length ≤ (memberText gap member text).length := by
  simp [memberText]
  omega

theorem find?_members (hnodup : record.names.Nodup) {member : Member σ}
    (h : member ∈ record.members) :
    record.members.find? (·.name == member.name) = some member := by
  have hsome : (record.members.find? (·.name == member.name)).isSome :=
    List.find?_isSome.mpr ⟨member, h, beq_self_eq_true member.name⟩
  obtain ⟨found, hfound⟩ := Option.isSome_iff_exists.mp hsome
  have hname : found.name = member.name := by simpa using List.find?_some hfound
  rw [hfound, List.inj_on_of_nodup_map hnodup (List.mem_of_find?_eq_some hfound) h hname]

theorem close_of_forall_mem {met : List String}
    (h : ∀ member ∈ record.members, member.name ∈ met) : record.close met = skip := by
  have hnone : record.members.find? (fun member => member.required && !met.contains member.name)
      = none := by
    rw [List.find?_eq_none]
    intro member hmember
    simp [h member hmember]
  rw [close, hnone]

theorem readMember_memberText (hnodup : record.names.Nodup) {member : Member σ}
    (hmember : member ∈ record.members) {met : List String} (hmet : member.name ∉ met)
    {text : List Char} {start next : σ} (htakes : Takes (member.read start) text next)
    {blanks gap rest : List Char} (hblanks : Blanks blanks) (hgap : Blanks gap)
    (hrest : Closes rest) {rounds : Nat} (hrounds : text.length ≤ rounds) :
    record.readMember met start rounds (blanks ++ (memberText gap member text ++ rest))
      = .ok ((member.name :: met, next), rest) := by
  rw [memberText, List.append_assoc, List.cons_append, List.append_assoc, readMember,
    bind_of_ok (string_quote member.name hblanks rounds _), find?_members hnodup hmember]
  dsimp only
  rw [if_neg (by simpa using hmet), bind_of_ok (expect_cons (by decide) rounds _),
    bind_of_ok (htakes.reads hrounds hgap hrest)]
  rfl

/-- The names that have been met are those of the members before the ones that are left. -/
def Met (record : Record σ) (met : List String) (left : List (Member σ)) : Prop :=
  ∃ earlier, record.members = earlier ++ left ∧ ∀ name, name ∈ met ↔ name ∈ earlier.map (·.name)

namespace Met

variable {met : List String} {member : Member σ} {left : List (Member σ)}

theorem start (record : Record σ) : record.Met [] record.members := ⟨[], rfl, by simp⟩

theorem mem (h : record.Met met (member :: left)) : member ∈ record.members := by
  obtain ⟨earlier, hmembers, -⟩ := h
  simp [hmembers]

theorem not_mem (hnodup : record.names.Nodup) (h : record.Met met (member :: left)) :
    member.name ∉ met := by
  obtain ⟨earlier, hmembers, hmet⟩ := h
  rw [names, hmembers, List.map_append, List.nodup_append] at hnodup
  intro hmem
  exact hnodup.2.2 _ ((hmet _).mp hmem) _ List.mem_cons_self rfl

theorem next (h : record.Met met (member :: left)) : record.Met (member.name :: met) left := by
  obtain ⟨earlier, hmembers, hmet⟩ := h
  refine ⟨earlier ++ [member], by simp [hmembers], fun name => ?_⟩
  rw [List.mem_cons, hmet, List.map_append, List.mem_append, List.map_singleton,
    List.mem_singleton, or_comm]

theorem forall_mem (h : record.Met met []) : ∀ member ∈ record.members, member.name ∈ met := by
  obtain ⟨earlier, hmembers, hmet⟩ := h
  intro member hmember
  rw [hmembers, List.append_nil] at hmember
  exact (hmet _).mpr (List.mem_map_of_mem hmember)

end Met

section Layout

variable {gap before between after : List Char}

/-- The members that are left are read up to the end of the object. -/
theorem readMembers_join (hnodup : record.names.Nodup) {members : List (Member σ)}
    {texts : List (List Char)} {start stop : σ} (h : Fills members texts start stop)
    (hne : members ≠ []) {met : List String} (hmet : record.Met met members) (hgap : Blanks gap)
    (hbetween : Blanks between) (hafter : Blanks after) {rounds count : Nat}
    (hrounds : (join (',' :: between)
      (List.zipWith (memberText gap) members texts)).length ≤ rounds)
    (hcount : members.length ≤ count) {blanks : List Char} (hblanks : Blanks blanks)
    (rest : List Char) : record.readMembers count met start rounds
      (blanks ++ (join (',' :: between) (List.zipWith (memberText gap) members texts)
        ++ (after ++ '}' :: rest))) = .ok (stop, rest) := by
  induction h generalizing count met blanks with
  | nil => exact absurd rfl hne
  | @cons member members text texts start next stop htakes htail ih =>
    obtain ⟨count, rfl⟩ : ∃ fewer, count = fewer + 1 := ⟨count - 1, by simp at hcount; omega⟩
    obtain ⟨hfirst, hmore⟩ := length_le_length_join (',' :: between) (memberText gap member text)
      (List.zipWith (memberText gap) members texts)
    have hlength : text.length ≤ rounds :=
      Nat.le_trans (length_le_length_memberText gap member text) (Nat.le_trans hfirst hrounds)
    have hread : ∀ rest, Closes rest → _ := fun rest hrest =>
      readMember_memberText hnodup hmet.mem (hmet.not_mem hnodup) htakes hblanks hgap hrest hlength
    cases htail with
    | nil =>
      rw [readMembers, List.zipWith_cons_cons, List.zipWith_nil_left, join,
        bind_of_ok (hread _ (hafter.closes_append (closes_cons (by decide) rest)))]
      dsimp only
      rw [bind_of_ok (peek_append hafter (by rintro _ ⟨⟩; decide) rounds)]
      dsimp only [List.head?_cons]
      rw [close_of_forall_mem hmet.next.forall_mem]
      rfl
    | cons _ _ =>
      have hrest := ih (by simp) hmet.next (Nat.le_trans hmore hrounds)
        (Nat.le_of_succ_le_succ hcount) hbetween
      rw [readMembers, List.zipWith_cons_cons, List.zipWith_cons_cons, join_cons_cons,
        List.append_assoc, List.append_assoc, List.cons_append,
        bind_of_ok (hread _ (closes_cons (by decide) _))]
      dsimp only
      rw [bind_of_ok (peek_cons (by decide) rounds _)]
      exact hrest

/-- **A record is read as it was written**, with any blanks between its pieces. -/
theorem takes_record (hnodup : record.names.Nodup) (hne : record.members ≠ [])
    {texts : List (List Char)} {start stop : σ} (h : Fills record.members texts start stop)
    (hgap : Blanks gap) (hbefore : Blanks before) (hbetween : Blanks between)
    (hafter : Blanks after) : Takes (record.reader start) ('{' :: (before
      ++ (join (',' :: between) (List.zipWith (memberText gap) record.members texts)
        ++ (after ++ ['}'])))) stop where
  begins := ⟨'{', _, rfl, by decide, by decide⟩
  reads := by
    intro rounds blanks rest hrounds hblanks _
    simp only [List.cons_append, List.append_assoc, List.nil_append]
    simp only [List.length_cons, List.length_append] at hrounds
    have hcount : record.members.length ≤ rounds := by
      have hzip := h.length_eq
      have hjoin := length_le_length_join_succ ',' between
        (List.zipWith (memberText gap) record.members texts)
      rw [List.length_zipWith] at hjoin
      omega
    have hlength : (join (',' :: between)
        (List.zipWith (memberText gap) record.members texts)).length ≤ rounds := by omega
    have hmembers := readMembers_join hnodup h hne (.start record) hgap hbetween hafter hlength
      hcount blanks_nil rest
    obtain ⟨tail, htext⟩ := h.exists_join_eq hne gap (',' :: between)
    rw [htext] at hmembers ⊢
    rw [reader, bind_of_ok (peek_append hblanks (by rintro _ ⟨⟩; decide) rounds)]
    change (skip >>= _) rounds _ = _
    rw [bind_of_ok rfl, List.tail_cons,
      bind_of_ok (peek_append hbefore (by rintro _ ⟨⟩; decide) rounds)]
    exact hmembers

end Layout

end Record

end ZGrid.Json
