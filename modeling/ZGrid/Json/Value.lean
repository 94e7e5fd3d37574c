import ZGrid.Json.Scan

/-!
# Json/Value — documents as values

A value is `null`, a truth value, a number as it is written, a string, a list, or an object: named
members in the order in which they stand.  A member that is given twice has its last value.

Values are read to a fixed **depth** of nested brackets; a value that is only passed over may nest
as deeply as it likes.
-/

namespace ZGrid

/-- The value of a document. -/
inductive Json where
  /-- No value. -/
  | null
  /-- A truth value. -/
  | bool (value : Bool)
  /-- A number. -/
  | number (numeral : Numeral)
  /-- A string. -/
  | string (text : String)
  /-- A list. -/
  | list (items : List Json)
  /-- An object. -/
  | object (members : List (String × Json))
deriving Repr, Inhabited

namespace Json

/-! ## Equal values -/

mutual

/-- Two equal values. -/
def same : Json → Json → Bool
  | .null, .null => true
  | .bool a, .bool b => a == b
  | .number a, .number b => a == b
  | .string a, .string b => a == b
  | .list items, .list others => sameItems items others
  | .object members, .object others => sameMembers members others
  | _, _ => false

/-- Two lists of equal values. -/
def sameItems : List Json → List Json → Bool
  | [], [] => true
  | a :: items, b :: others => same a b && sameItems items others
  | _, _ => false

/-- Two lists of equal members. -/
def sameMembers : List (String × Json) → List (String × Json) → Bool
  | [], [] => true
  | (name, a) :: members, (other, b) :: others =>
    name == other && same a b && sameMembers members others
  | _, _ => false

end

mutual

theorem same_iff : ∀ a b : Json, same a b = true ↔ a = b
  | .null, b => by cases b <;> simp [same]
  | .bool _, b => by cases b <;> simp [same]
  | .number _, b => by cases b <;> simp [same]
  | .string _, b => by cases b <;> simp [same]
  | .list items, b => by cases b <;> simp [same, sameItems_iff items]
  | .object members, b => by cases b <;> simp [same, sameMembers_iff members]

theorem sameItems_iff : ∀ items others : List Json, sameItems items others = true ↔ items = others
  | [], others => by cases others <;> simp [sameItems]
  | a :: items, others => by cases others <;> simp [sameItems, same_iff a, sameItems_iff items]

theorem sameMembers_iff : ∀ members others : List (String × Json),
    sameMembers members others = true ↔ members = others
  | [], others => by cases others <;> simp [sameMembers]
  | (name, a) :: members, others => by
    cases others with
    | nil => simp [sameMembers]
    | cons other others => simp [sameMembers, Prod.ext_iff, same_iff a, sameMembers_iff members]

end

instance : DecidableEq Json := fun a b => decidable_of_iff _ (same_iff a b)

/-! ## Members -/

/-- The value of the last member of a name. -/
def find? (members : List (String × Json)) (name : String) : Option Json :=
  (members.reverse.find? (·.1 == name)).map (·.2)

namespace Reader

/-- The members of an object behind its opening bracket, when there is at least one. -/
def members {α : Type} (member : Reader α) : (rounds : Nat) → Reader (List α)
  | 0 => refuse
  | rounds + 1 => do
    let first ← member
    match ← peek with
    | some ',' => skip; return first :: (← members member rounds)
    | some '}' => skip; return [first]
    | _ => refuse

/-- An object, its members read one by one. -/
def object {α : Type} (member : Reader α) : Reader (List α) := do
  expect '{'
  if (← peek) = some '}' then
    skip
    return []
  else
    members member (← read)

/-- A number within the range of a float. -/
def number : Reader Numeral := do
  let numeral ← numeral
  if Float64.isFinite numeral.toFloat then return numeral else refuse

/-- A value whose brackets nest at most to a depth. -/
def value : (depth : Nat) → Reader Json
  | 0 => do
    match ← peek with
    | some 'n' => word ['n', 'u', 'l', 'l']; return .null
    | some 't' => word ['t', 'r', 'u', 'e']; return .bool true
    | some 'f' => word ['f', 'a', 'l', 's', 'e']; return .bool false
    | some '"' => return .string (← string)
    | some '[' => refuse
    | some '{' => refuse
    | _ => return .number (← number)
  | depth + 1 => do
    match ← peek with
    | some '[' => return .list (← list (value depth))
    | some '{' =>
      return .object (← object do
        let name ← string
        expect ':'
        return (name, ← value depth))
    | _ => value 0

/-- Any value, passed over. -/
def pass : (depth : Nat) → Reader Unit
  | 0 => refuse
  | depth + 1 => do
    match ← peek with
    | some 'n' => word ['n', 'u', 'l', 'l']
    | some 't' => word ['t', 'r', 'u', 'e']
    | some 'f' => word ['f', 'a', 'l', 's', 'e']
    | some '"' => passString
    | some '[' => let _ ← list (pass depth)
    | some '{' => let _ ← object do
        passString
        expect ':'
        pass depth
    | _ => let _ ← numeral

/-- A value of any depth, passed over; each bracket takes a character. -/
def passValue : Reader Unit := do pass (← read)

end Reader

/-- The value of a document whose brackets nest at most 127 deep. -/
def ofText? (text : String) : Except Fault Json := Reader.document (Reader.value 127) text

end Json

end ZGrid
