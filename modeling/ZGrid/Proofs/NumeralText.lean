import ZGrid.Json.Scan

/-!
# Proofs/NumeralText — a number is read as it was written

```
   Nat.toDigits 10 n  ──span──▸  digits  ──foldNat 0──▸  n
```

A reader of digits takes as many as there are, so a numeral is read back from its text if what
follows could not continue it: no digit, no point, no letter of an exponent (`numeral_toChars`).
-/

namespace ZGrid

namespace Digit

/-- A text that goes on with something else than a digit. -/
def Stops (rest : List Char) : Prop := ∀ c ∈ rest.head?, ofChar? c = none

theorem span_append (digits : List Digit) {rest : List Char} (h : Stops rest) :
    span (digits.map toChar ++ rest) = (digits, rest) := by
  induction digits with
  | nil =>
    cases rest with
    | nil => rfl
    | cons c rest => simp [span, h c rfl]
  | cons digit digits ih => simp [span, ofChar?_toChar, ih]

theorem foldNat_append (start : Nat) (digits more : List Digit) :
    foldNat start (digits ++ more) = foldNat (foldNat start digits) more :=
  List.foldl_append

/-- **The digits of a number.**  They are written as `Nat.toDigits` writes them and read as the
number, and none of them is a leading zero. -/
theorem exists_toDigits_eq (n : Nat) : ∃ digits : List Digit,
    Nat.toDigits 10 n = digits.map toChar ∧ foldNat 0 digits = n ∧ digits ≠ []
      ∧ (digits.head? = some 0 → digits.length = 1) := by
  induction n using Nat.strongRecOn with
  | ind n ih =>
    rw [Nat.toDigits_eq_if (by decide)]
    split
    · rename_i hsmall
      exact ⟨[⟨n, hsmall⟩], rfl, by simp [foldNat], by simp, fun _ => rfl⟩
    · rename_i hlarge
      obtain ⟨digits, htext, hvalue, hne, hzero⟩ := ih (n / 10) (by omega)
      refine ⟨digits ++ [⟨n % 10, Nat.mod_lt n (by decide)⟩], ?_, ?_, by simp, fun hhead => ?_⟩
      · simp [htext, toChar]
      · rw [foldNat_append, hvalue]
        change 10 * (n / 10) + n % 10 = n
        omega
      · -- A leading zero of the first digits would make up all of them, and `n / 10` is not zero.
        obtain ⟨digit, more, rfl⟩ := List.exists_cons_of_ne_nil hne
        obtain rfl := List.length_eq_zero_iff.mp (Nat.succ.inj (hzero hhead))
        obtain rfl := Option.some.inj hhead
        change 0 = n / 10 at hvalue
        omega

end Digit

/-- The numeral of a whole number has no point and no exponent. -/
theorem Numeral.toInt?_ofInt (value : Int) : (ofInt value).toInt? = some value := by
  change (if decide (value < 0) = true then
    if value.natAbs = 0 then none else some (-(value.natAbs : Int)) else some ↑value.natAbs) = _
  by_cases hneg : value < 0
  · rw [if_pos (decide_eq_true hneg), if_neg (by omega)]
    congr 1
    omega
  · rw [if_neg (by simpa using hneg)]
    congr 1
    omega

namespace Json.Reader

variable {α β : Type} {rounds : Nat} {text rest : List Char}

/-! ## Steps of a reader -/

theorem bind_of_ok {reader : Reader α} {value : α} (h : reader rounds text = .ok (value, rest))
    (next : α → Reader β) : (reader >>= next) rounds text = next value rounds rest := by
  change Except.bind (reader rounds text) _ = _
  rw [h]
  rfl

/-- Nothing but blanks. -/
def Blanks (text : List Char) : Prop := ∀ c ∈ text, isBlank c = true

theorem blanks_nil : Blanks [] := nofun

theorem peek_append {blanks : List Char} (hblanks : Blanks blanks)
    (htext : ∀ c ∈ text.head?, isBlank c = false) (rounds : Nat) :
    peek rounds (blanks ++ text) = .ok (text.head?, text) := by
  have hrest : (blanks ++ text).dropWhile isBlank = text := by
    rw [List.dropWhile_append_of_pos hblanks]
    cases text with
    | nil => rfl
    | cons c text => exact List.dropWhile_cons_of_neg (by simp [htext c rfl])
  rw [peek, hrest]

theorem peek_cons {c : Char} (hc : isBlank c = false) (rounds : Nat) (rest : List Char) :
    peek rounds (c :: rest) = .ok (some c, c :: rest) :=
  peek_append blanks_nil (by rintro _ ⟨⟩; exact hc) rounds

theorem oneOf?_of_mem {cs : List Char} {c : Char} (h : c ∈ cs) (rounds : Nat) (rest : List Char) :
    oneOf? cs rounds (c :: rest) = .ok (some c, rest) := by
  simp [oneOf?, h]

theorem oneOf?_of_not_mem {cs : List Char} (h : ∀ c ∈ rest.head?, c ∉ cs) (rounds : Nat) :
    oneOf? cs rounds rest = .ok (none, rest) := by
  cases rest with
  | nil => rfl
  | cons c rest => simp [oneOf?, h c rfl]

/-! ## The parts of a number -/

theorem digits_append {ds : List Digit} (hne : ds ≠ []) (hrest : Digit.Stops rest) (rounds : Nat) :
    digits rounds (ds.map Digit.toChar ++ rest) = .ok (ds, rest) := by
  rw [digits, Digit.span_append ds hrest]
  obtain ⟨digit, more, rfl⟩ := List.exists_cons_of_ne_nil hne
  rfl

theorem wholePart_toDigits (n : Nat) (hrest : Digit.Stops rest) (rounds : Nat) :
    wholePart rounds (Nat.toDigits 10 n ++ rest) = .ok (n, rest) := by
  obtain ⟨ds, htext, rfl, hne, hzero⟩ := Digit.exists_toDigits_eq n
  rw [htext, wholePart, bind_of_ok (digits_append hne hrest rounds), if_neg]
  · rfl
  · rintro ⟨hhead, hlength⟩
    exact hlength (hzero hhead)

/-- A text that goes on with nothing that a number could go on with. -/
def EndsNumber (rest : List Char) : Prop :=
  ∀ c ∈ rest.head?, Digit.ofChar? c = none ∧ c ∉ ['.'] ∧ c ∉ ['e', 'E']

theorem EndsNumber.stops (h : EndsNumber rest) : Digit.Stops rest := fun c hc => (h c hc).1

theorem fractionPart_append (ds : List Digit) (hrest : Digit.Stops rest)
    (hpoint : ∀ c ∈ rest.head?, c ∉ ['.']) (rounds : Nat) :
    fractionPart rounds ((if ds = [] then [] else '.' :: ds.map Digit.toChar) ++ rest)
      = .ok (ds, rest) := by
  rw [fractionPart]
  split
  · rename_i hnone
    rw [hnone, List.nil_append, bind_of_ok (oneOf?_of_not_mem hpoint rounds)]
    rfl
  · rename_i hne
    rw [List.cons_append, bind_of_ok (oneOf?_of_mem (by simp) ..)]
    exact digits_append hne hrest rounds

/-- The text of a number begins with a digit. -/
theorem forall_head?_toDigits {p : Char → Prop} (h : ∀ digit : Digit, p digit.toChar) (n : Nat)
    (rest : List Char) : ∀ c ∈ (Nat.toDigits 10 n ++ rest).head?, p c := by
  obtain ⟨ds, htext, -, hne, -⟩ := Digit.exists_toDigits_eq n
  obtain ⟨digit, more, rfl⟩ := List.exists_cons_of_ne_nil hne
  rw [htext]
  rintro c ⟨⟩
  exact h digit

theorem digits_toDigits (n : Nat) (hrest : Digit.Stops rest) (rounds : Nat) :
    ∃ ds, digits rounds (Nat.toDigits 10 n ++ rest) = .ok (ds, rest) ∧ Digit.foldNat 0 ds = n := by
  obtain ⟨ds, htext, hvalue, hne, -⟩ := Digit.exists_toDigits_eq n
  exact ⟨ds, by rw [htext, digits_append hne hrest], hvalue⟩

theorem exponentPart_append (plus : Bool) (exponent : Option Int) (hrest : EndsNumber rest)
    (rounds : Nat) : exponentPart rounds
      ((exponent.map (Numeral.exponentText plus)).getD [] ++ rest) = .ok (exponent, rest) := by
  rw [exponentPart]
  cases exponent with
  | none => exact bind_of_ok (oneOf?_of_not_mem (fun c hc => (hrest c hc).2.2) rounds) _
  | some exponent =>
    obtain ⟨ds, hds, hvalue⟩ := digits_toDigits exponent.natAbs hrest.stops rounds
    simp only [Option.map_some, Option.getD_some, Numeral.exponentText, List.cons_append,
      List.append_assoc]
    rw [bind_of_ok (oneOf?_of_mem (by simp) ..)]
    have hsize : ∀ sign : Option Char,
        (do let size : Int := Digit.foldNat 0 (← digits)
            return some (if sign = some '-' then -size else size) : Reader (Option Int))
          rounds (Nat.toDigits 10 exponent.natAbs ++ rest)
        = .ok (some (if sign = some '-' then -exponent.natAbs else exponent.natAbs), rest) :=
      fun _ => by rw [bind_of_ok hds, hvalue]; rfl
    dsimp only
    split
    · rw [List.cons_append, List.nil_append, bind_of_ok (oneOf?_of_mem (by simp) ..), hsize,
        if_pos rfl]
      congr 3
      omega
    · have hself : (exponent.natAbs : Int) = exponent := by omega
      split
      · rw [List.cons_append, List.nil_append, bind_of_ok (oneOf?_of_mem (by simp) ..), hsize,
          if_neg (by decide), hself]
      · rw [List.nil_append, bind_of_ok (oneOf?_of_not_mem
          (forall_head?_toDigits (by decide) _ rest) rounds), hsize, if_neg (by decide), hself]

/-- What follows the digits behind a point goes on with none, and with no other point. -/
theorem head?_exponentText (plus : Bool) (exponent : Option Int) (hrest : EndsNumber rest) :
    ∀ c ∈ ((exponent.map (Numeral.exponentText plus)).getD [] ++ rest).head?,
      Digit.ofChar? c = none ∧ c ∉ ['.'] := by
  cases exponent with
  | none => exact fun c hc => ⟨(hrest c hc).1, (hrest c hc).2.1⟩
  | some exponent =>
    rintro c ⟨⟩
    decide

/-- What follows the whole part goes on with no digit. -/
theorem stops_fractionText (ds : List Digit) (hrest : Digit.Stops rest) :
    Digit.Stops ((if ds = [] then [] else '.' :: ds.map Digit.toChar) ++ rest) := by
  split
  · exact hrest
  · rintro c ⟨⟩
    decide

/-- The text of a numeral begins with a minus sign or a digit. -/
theorem exists_toChars_eq {p : Char → Prop} (hminus : p '-')
    (hdigit : ∀ digit : Digit, p digit.toChar) (plus : Bool) (n : Numeral) :
    ∃ c tail, n.toChars plus = c :: tail ∧ p c := by
  obtain ⟨negative, whole, fraction, exponent⟩ := n
  obtain ⟨ds, htext, -, hne, -⟩ := Digit.exists_toDigits_eq whole
  obtain ⟨digit, more, rfl⟩ := List.exists_cons_of_ne_nil hne
  rw [Numeral.toChars, htext]
  cases negative with
  | true => exact ⟨_, _, rfl, hminus⟩
  | false => exact ⟨_, _, rfl, hdigit digit⟩

/-- **A numeral is read as it was written**, blanks before it aside. -/
theorem numeral_toChars (plus : Bool) (n : Numeral) {blanks : List Char} (hblanks : Blanks blanks)
    (hrest : EndsNumber rest) (rounds : Nat) :
    numeral rounds (blanks ++ (n.toChars plus ++ rest)) = .ok (n, rest) := by
  obtain ⟨negative, whole, fraction, exponent⟩ := n
  have hexponent := head?_exponentText plus exponent hrest
  have hfraction := stops_fractionText fraction fun c hc => (hexponent c hc).1
  have hunsigned : (do return ⟨negative, ← wholePart, ← fractionPart, ← exponentPart⟩ :
      Reader Numeral) rounds (Nat.toDigits 10 whole
        ++ ((if fraction = [] then [] else '.' :: fraction.map Digit.toChar)
          ++ ((exponent.map (Numeral.exponentText plus)).getD [] ++ rest)))
      = .ok (⟨negative, whole, fraction, exponent⟩, rest) := by
    rw [bind_of_ok (wholePart_toDigits whole hfraction rounds),
      bind_of_ok (fractionPart_append fraction (fun c hc => (hexponent c hc).1)
        (fun c hc => (hexponent c hc).2) rounds),
      bind_of_ok (exponentPart_append plus exponent hrest rounds)]
    rfl
  rw [Numeral.toChars, numeral]
  simp only [List.append_assoc]
  cases negative with
  | true =>
    rw [if_pos rfl, bind_of_ok (peek_append hblanks (by rintro c ⟨⟩; decide) rounds),
      List.cons_append, List.nil_append, bind_of_ok (oneOf?_of_mem (by simp) ..)]
    exact hunsigned
  | false =>
    rw [if_neg (by decide), List.nil_append,
      bind_of_ok (peek_append hblanks
        (forall_head?_toDigits (p := fun c => isBlank c = false) (by decide) whole _) rounds),
      bind_of_ok (oneOf?_of_not_mem
        (forall_head?_toDigits (p := fun c => c ∉ ['-']) (by decide) whole _) rounds)]
    exact hunsigned

/-- A whole number is read as it was written. -/
theorem integer_toChars (plus : Bool) {least greatest value : Int} (hleast : least ≤ value)
    (hgreatest : value ≤ greatest) {blanks : List Char} (hblanks : Blanks blanks)
    (hrest : EndsNumber rest) (rounds : Nat) : integer least greatest rounds
      (blanks ++ ((Numeral.ofInt value).toChars plus ++ rest)) = .ok (value, rest) := by
  rw [integer, bind_of_ok (numeral_toChars plus _ hblanks hrest rounds), Numeral.toInt?_ofInt]
  dsimp only
  rw [if_pos ⟨hleast, hgreatest⟩]
  rfl

end Json.Reader

end ZGrid
