import ZGrid.Number.Binary
import ZGrid.Number.Numeral

/-!
# Json/Scan — the pieces of a document

A reader takes what it needs off the front of the characters that are left, or finds fault.  The
pieces are white space, punctuation, words, strings and numbers; the grammar is strict: nothing
but the four blanks of the format between pieces, no raw control character in a string, no leading
zero, no digit missing.

Every round of a repetition takes at least one character, so the number of characters of the
document bounds the rounds; it is counted once and handed to all readers.
-/

namespace ZGrid.Json

/-- What is wrong with a document. -/
inductive Fault where
  /-- The text is no document, or a value is of another kind than the one asked for. -/
  | malformed
  /-- A member that has to be there is not. -/
  | missing (member : String)
  /-- A member is none of those expected. -/
  | unknown (member : String) (expected : List String)
  /-- A member is given twice. -/
  | duplicate (member : String)
deriving DecidableEq, Repr

/-- A computation on the characters that are left of a document, with a bound on its rounds. -/
abbrev Reader (α : Type) := ReaderT Nat (StateT (List Char) (Except Fault)) α

namespace Reader

/-- The text is refused. -/
def refuse {α : Type} : Reader α := throw .malformed

/-- A blank between the pieces. -/
def isBlank (c : Char) : Bool := c == ' ' || c == '\t' || c == '\n' || c == '\r'

/-- The next character that is not blank, left where it stands. -/
def peek : Reader (Option Char) := fun _ text =>
  let rest := text.dropWhile isBlank
  .ok (rest.head?, rest)

/-- The next character, passed over. -/
def skip : Reader Unit := fun _ text => .ok ((), text.tail)

/-- The next character that is not blank, which has to be the given one. -/
def expect (c : Char) : Reader Unit := do
  if (← peek) = some c then skip else refuse

/-- The characters of a word, without blanks before it. -/
def word (letters : List Char) : Reader Unit := fun _ text =>
  if letters.isPrefixOf text then .ok ((), text.drop letters.length) else .error .malformed

/-! ## Strings -/

/-- The value of a hexadecimal digit. -/
def hexDigit? (c : Char) : Option Nat :=
  if '0' ≤ c ∧ c ≤ '9' then some (c.toNat - '0'.toNat)
  else if 'a' ≤ c ∧ c ≤ 'f' then some (c.toNat - 'a'.toNat + 10)
  else if 'A' ≤ c ∧ c ≤ 'F' then some (c.toNat - 'A'.toNat + 10)
  else none

/-- The value of four hexadecimal digits. -/
def hex4? (a b c d : Char) : Option Nat := do
  return 4096 * (← hexDigit? a) + 256 * (← hexDigit? b) + 16 * (← hexDigit? c) + (← hexDigit? d)

/-- The character that one letter behind a backslash stands for. -/
def escape? : Char → Option Char
  | '"' => some '"'
  | '\\' => some '\\'
  | '/' => some '/'
  | 'b' => some '\x08'
  | 'f' => some '\x0c'
  | 'n' => some '\n'
  | 'r' => some '\r'
  | 't' => some '\t'
  | _ => none

/-- The first half of a pair of code units. -/
def isHighHalf (unit : Nat) : Bool := 0xd800 ≤ unit && unit < 0xdc00

/-- The second half of a pair of code units. -/
def isLowHalf (unit : Nat) : Bool := 0xdc00 ≤ unit && unit < 0xe000

/-- The character of a pair of code units. -/
def joinHalves (high low : Nat) : Char :=
  Char.ofNat (0x10000 + 0x400 * (high - 0xd800) + (low - 0xdc00))

/-- The characters of a string up to its closing quote, and what follows it. -/
def stringChars : List Char → Option (List Char × List Char)
  | [] => none
  | '"' :: rest => some ([], rest)
  | '\\' :: 'u' :: a :: b :: c :: d :: rest => do
    let unit ← hex4? a b c d
    if isLowHalf unit then none
    else if isHighHalf unit then
      match rest with
      | '\\' :: 'u' :: e :: f :: g :: h :: rest => do
        let low ← hex4? e f g h
        if isLowHalf low then
          let (chars, rest) ← stringChars rest
          return (joinHalves unit low :: chars, rest)
        else none
      | _ => none
    else
      let (chars, rest) ← stringChars rest
      return (Char.ofNat unit :: chars, rest)
  | '\\' :: letter :: rest => do
    let c ← escape? letter
    let (chars, rest) ← stringChars rest
    return (c :: chars, rest)
  | c :: rest =>
    if c < ' ' ∨ c = '\\' then none
    else do
      let (chars, rest) ← stringChars rest
      return (c :: chars, rest)

/-- What follows a string whose value is not wanted: its escapes need not name characters. -/
def afterString : List Char → Option (List Char)
  | [] => none
  | '"' :: rest => some rest
  | '\\' :: 'u' :: a :: b :: c :: d :: rest =>
    if (hex4? a b c d).isSome then afterString rest else none
  | '\\' :: letter :: rest => if (escape? letter).isSome then afterString rest else none
  | c :: rest => if c < ' ' ∨ c = '\\' then none else afterString rest

/-- A string. -/
def string : Reader String := do
  expect '"'
  return String.ofList (← inString)
where
  /-- The characters of a string behind its opening quote. -/
  inString : Reader (List Char) := fun _ text =>
    match stringChars text with
    | some read => .ok read
    | none => .error .malformed

/-- A string whose value is not wanted. -/
def passString : Reader Unit := do
  expect '"'
  pastString
where
  /-- The rest of a string behind its opening quote, passed over. -/
  pastString : Reader Unit := fun _ text =>
    match afterString text with
    | some rest => .ok ((), rest)
    | none => .error .malformed

/-! ## Numbers -/

/-- Digits, at least one. -/
def digits : Reader (List Digit) := fun _ text =>
  match Digit.span text with
  | ([], _) => .error .malformed
  | (digits, rest) => .ok (digits, rest)

/-- The next character, if it is one of the given ones, passed over. -/
def oneOf? (cs : List Char) : Reader (Option Char) := fun _ text =>
  match text with
  | c :: rest => if cs.contains c then .ok (some c, rest) else .ok (none, text)
  | [] => .ok (none, [])

/-- The whole part of a number: a zero alone, or digits that start with another one. -/
def wholePart : Reader Nat := do
  let digits ← digits
  if digits.head? = some 0 ∧ digits.length ≠ 1 then refuse
  return Digit.foldNat 0 digits

/-- The digits behind the point, if there is one. -/
def fractionPart : Reader (List Digit) := do
  match ← oneOf? ['.'] with
  | some _ => digits
  | none => return []

/-- The exponent, if there is one. -/
def exponentPart : Reader (Option Int) := do
  match ← oneOf? ['e', 'E'] with
  | none => return none
  | some _ =>
    let sign ← oneOf? ['+', '-']
    let size : Int := Digit.foldNat 0 (← digits)
    return some (if sign = some '-' then -size else size)

/-- A number. -/
def numeral : Reader Numeral := do
  let _ ← peek
  let negative := (← oneOf? ['-']).isSome
  return ⟨negative, ← wholePart, ← fractionPart, ← exponentPart⟩

/-- The float nearest to a number that is not past the largest one. -/
def float : Reader Float := do
  let x := (← numeral).toFloat
  if Float64.isFinite x then return x else refuse

/-- A whole number between two bounds, both included, that is written as one. -/
def integer (least greatest : Int) : Reader Int := do
  match (← numeral).toInt? with
  | some value => if least ≤ value ∧ value ≤ greatest then return value else refuse
  | none => refuse

/-! ## Lists -/

/-- The items of a list behind its opening bracket, when there is at least one. -/
def items {α : Type} (item : Reader α) : (rounds : Nat) → Reader (List α)
  | 0 => refuse
  | rounds + 1 => do
    let first ← item
    match ← peek with
    | some ',' => skip; return first :: (← items item rounds)
    | some ']' => skip; return [first]
    | _ => refuse

/-- A list of items in brackets. -/
def list {α : Type} (item : Reader α) : Reader (List α) := do
  expect '['
  if (← peek) = some ']' then
    skip
    return []
  else
    items item (← read)

/-! ## Whole documents -/

/-- The value of a document that holds one piece and nothing but blanks around it. -/
def document {α : Type} (reader : Reader α) (text : String) : Except Fault α := do
  let chars := text.toList
  let (value, rest) ← reader chars.length chars
  if rest.all isBlank then return value else throw .malformed

end Reader

end ZGrid.Json
