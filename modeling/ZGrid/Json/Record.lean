import ZGrid.Json.Value

/-!
# Json/Record — documents with a fixed list of members

A record is written as an object, its members in any order, or as the list of its members' values
in the order of the record.  It is read member by member, so of two faults the one that is met
first counts:

* an unknown member is met with its name, a repeated one too, before the value is looked at;
* a missing member is met at the closing bracket, the first of them in the order of the record.

A list may leave out optional members at its end.
-/

namespace ZGrid.Json

/-- A member of a record that is built up as a state. -/
structure Member (σ : Type) where
  /-- The name. -/
  name : String
  /-- The record is not complete without it. -/
  required : Bool
  /-- The state once the member's value is read into it. -/
  read : σ → Reader σ

/-- The members of a record. -/
structure Record (σ : Type) where
  /-- The members in order. -/
  members : List (Member σ)
  /-- No other member is allowed; otherwise others are passed over. -/
  closed : Bool

namespace Record

variable {σ : Type}

/-- The names of the members. -/
def names (record : Record σ) : List String := record.members.map (·.name)

/-- One member of an object; the names met so far come with the state. -/
def readMember (record : Record σ) (met : List String) (state : σ) :
    Reader (List String × σ) := do
  let name ← Reader.string
  match record.members.find? (·.name == name) with
  | some member =>
    if met.contains name then throw (.duplicate name)
    Reader.expect ':'
    return (name :: met, ← member.read state)
  | none =>
    if record.closed then throw (.unknown name record.names)
    Reader.expect ':'
    Reader.passValue
    return (met, state)

/-- The end of an object: every member that is required has been met. -/
def close (record : Record σ) (met : List String) : Reader Unit := do
  match record.members.find? fun member => member.required && !met.contains member.name with
  | some member => throw (.missing member.name)
  | none => Reader.skip

/-- The members of an object from one of them on. -/
def readMembers (record : Record σ) : (rounds : Nat) → List String → σ → Reader σ
  | 0, _, _ => Reader.refuse
  | rounds + 1, met, state => do
    let (met, state) ← record.readMember met state
    match ← Reader.peek with
    | some ',' => Reader.skip; record.readMembers rounds met state
    | some '}' => record.close met; return state
    | _ => Reader.refuse

/-- The values of a list for the members that are left; `first` tells that none was read. -/
def readValues : List (Member σ) → (first : Bool) → σ → Reader σ
  | [], _, state => do Reader.expect ']'; return state
  | member :: rest, first, state => do
    match ← Reader.peek with
    | some ']' => if member.required then Reader.refuse else readValues rest first state
    | some ',' =>
      if first then Reader.refuse
      Reader.skip
      readValues rest false (← member.read state)
    | _ => if first then readValues rest false (← member.read state) else Reader.refuse

/-- A record in either form, starting from a state that has the optional members' values. -/
def reader (record : Record σ) (start : σ) : Reader σ := do
  match ← Reader.peek with
  | some '{' =>
    Reader.skip
    match ← Reader.peek with
    | some '}' => record.close []; return start
    | _ => record.readMembers (← read) [] start
  | some '[' => Reader.skip; readValues record.members true start
  | _ => Reader.refuse

end Record

end ZGrid.Json
