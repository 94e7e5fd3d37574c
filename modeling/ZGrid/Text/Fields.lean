/-!
# Text/Fields — a text cut at a separator

`n` separators cut a text into `n + 1` fields, some of which may be empty; the empty text is one
empty field.
-/

namespace ZGrid.Text

/-- The fields of a text between the separators. -/
def fieldChars (separator : Char) : List Char → List (List Char)
  | [] => [[]]
  | c :: rest =>
    if c = separator then [] :: fieldChars separator rest
    else
      match fieldChars separator rest with
      | [] => [[c]]
      | field :: fields => (c :: field) :: fields

/-- The fields of a text between the separators. -/
def fields (separator : Char) (text : String) : List String :=
  (fieldChars separator text.toList).map String.ofList

theorem fieldChars_ne_nil (separator : Char) (text : List Char) :
    fieldChars separator text ≠ [] := by
  cases text with
  | nil => simp [fieldChars]
  | cons c rest =>
    rw [fieldChars]
    split
    · simp
    · split <;> simp

end ZGrid.Text
