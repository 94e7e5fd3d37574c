import ZGrid.Json.Value
import ZGrid.Number.Style

/-!
# Json/Printer — the text of a value

A value has two texts: a **compact** one without any blank, and an **indented** one with an item a
line and two blanks a level:

```
   { "a": [1] }       compact    {"a":[1]}
                      indented   {
                                   "a": [
                                     1
                                   ]
                                 }
```

An empty list is `[]` in both.  Strings escape the quote, the backslash and the control characters
below the blank, nothing else.
-/

namespace ZGrid.Json

/-- The value of a float: a number, or `null` for what is none. -/
def ofFloat (x : Float) : Json :=
  match Style.document.numeral? x with
  | some numeral => .number numeral
  | none => .null

/-- The value of a whole number. -/
def ofInt (value : Int) : Json := .number (Numeral.ofInt value)

/-- The value of a list of strings. -/
def ofStrings (texts : List String) : Json := .list (texts.map .string)

/-- The characters that a character of a string is written as. -/
def escape (c : Char) : List Char :=
  if c = '"' then ['\\', '"']
  else if c = '\\' then ['\\', '\\']
  else if c = '\x08' then ['\\', 'b']
  else if c = '\t' then ['\\', 't']
  else if c = '\n' then ['\\', 'n']
  else if c = '\x0c' then ['\\', 'f']
  else if c = '\r' then ['\\', 'r']
  else if c < ' ' then
    ['\\', 'u', '0', '0', Nat.digitChar (c.toNat / 16), Nat.digitChar (c.toNat % 16)]
  else [c]

/-- The text of a string in its quotes. -/
def quote (text : String) : List Char := '"' :: (text.toList.flatMap escape ++ ['"'])

/-- The text of a value that is neither list nor object. -/
def atom : Json → List Char
  | null => ['n', 'u', 'l', 'l']
  | bool true => ['t', 'r', 'u', 'e']
  | bool false => ['f', 'a', 'l', 's', 'e']
  | number numeral => numeral.toChars Style.document.plus
  | string text => quote text
  | _ => []

/-- Texts with a separator between each two. -/
def join (separator : List Char) : List (List Char) → List Char
  | [] => []
  | [text] => text
  | text :: rest => text ++ separator ++ join separator rest

/-! ## The compact text -/

mutual

/-- The text of a value without blanks. -/
def compact : Json → List Char
  | list items => '[' :: (join [','] (compactItems items) ++ [']'])
  | object members => '{' :: (join [','] (compactMembers members) ++ ['}'])
  | value => value.atom

/-- The texts of the items of a list. -/
def compactItems : List Json → List (List Char)
  | [] => []
  | item :: rest => item.compact :: compactItems rest

/-- The texts of the members of an object. -/
def compactMembers : List (String × Json) → List (List Char)
  | [] => []
  | (name, value) :: rest => (quote name ++ ':' :: value.compact) :: compactMembers rest

end

/-! ## The indented text -/

/-- A new line at a level of indentation. -/
def newLine (level : Nat) : List Char := '\n' :: List.replicate (2 * level) ' '

/-- The texts inside brackets, each on a line one level further in. -/
def block (level : Nat) (opening closing : Char) : List (List Char) → List Char
  | [] => [opening, closing]
  | texts =>
    opening :: (newLine (level + 1) ++ join (',' :: newLine (level + 1)) texts ++
      newLine level ++ [closing])

mutual

/-- The text of a value with an item a line, itself standing at a level. -/
def indented (level : Nat) : Json → List Char
  | list items => block level '[' ']' (indentedItems (level + 1) items)
  | object members => block level '{' '}' (indentedMembers (level + 1) members)
  | value => value.atom

/-- The texts of the items of a list. -/
def indentedItems (level : Nat) : List Json → List (List Char)
  | [] => []
  | item :: rest => item.indented level :: indentedItems level rest

/-- The texts of the members of an object. -/
def indentedMembers (level : Nat) : List (String × Json) → List (List Char)
  | [] => []
  | (name, value) :: rest =>
    (quote name ++ ':' :: ' ' :: value.indented level) :: indentedMembers level rest

end

/-- The text of a value without blanks. -/
def compactText (value : Json) : String := String.ofList value.compact

/-- The text of a value with an item a line. -/
def indentedText (value : Json) : String := String.ofList (value.indented 0)

end ZGrid.Json
