import ZGrid.Text.LetterCase

/-!
# Text/Lowercase — texts without regard to letter case

Names of handlers, of their types and of their properties are compared in small letters.  Three
rules make up the small form of a text:

* a capital becomes its small letter;
* `İ` becomes `i` with a dot above it, two characters;
* `Σ` becomes `ς` at the end of a word and `σ` elsewhere.

Column types are compared by their ASCII letters alone.
-/

namespace ZGrid.Text

/-- The small letter of a character, or the character itself. -/
def lowerChar (c : Char) : Char :=
  match capitals.find? (·.contains c.toNat) with
  | some run => Char.ofNat (c.toNat + run.shift).toNat
  | none => c

/-- A letter with case is met before any other character that counts. -/
def meetsCased (text : List Char) : Bool :=
  match text.dropWhile fun c => inRuns skippedInWords c.toNat with
  | [] => false
  | c :: _ => inRuns casedLetters c.toNat

/-- The small form of a text, `before` being what precedes it, last character first. -/
def lowerFrom (before : List Char) : List Char → List Char
  | [] => []
  | c :: rest =>
    (if c = 'Σ' then [if meetsCased before && !meetsCased rest then 'ς' else 'σ']
      else if c = 'İ' then ['i', '\u0307']
      else [lowerChar c]) ++ lowerFrom (c :: before) rest

/-- A text in small letters. -/
def lowercase (text : String) : String := String.ofList (lowerFrom [] text.toList)

/-- Two texts that differ at most in the case of ASCII letters. -/
def sameLetters (a b : String) : Bool := a.toList.map Char.toLower == b.toList.map Char.toLower

end ZGrid.Text
