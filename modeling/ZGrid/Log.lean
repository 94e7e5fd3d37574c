import ZGrid.Cover
import ZGrid.Error

/-!
# Log — what happens on the way to an answer

A computation collects **events**, values with what there is to tell.  The lines of a log are the
events up to a level, each in its wording:

```
   Logged α  =  α  ×  list of events          an answer and its events
   Attempt α =  Logged (error or α)           the events stay when the answer is an error
```
-/

namespace ZGrid

/-- The levels of a log, each including those before it. -/
inductive Level where
  /-- What a user should know of. -/
  | warn
  /-- What a developer should know of. -/
  | debug
  /-- Every step. -/
  | trace
deriving DecidableEq, Repr

/-- The number of levels before one. -/
def Level.rank : Level → Nat
  | warn => 0
  | debug => 1
  | trace => 2

/-- Something to tell. -/
inductive Event where
  /-- The grid of a configuration has been worked out. -/
  | gridDerived (level : Nat) (delta : Point Float) (bounds : Box Float)
  /-- A point lies past the rows and columns that have keys of their own. -/
  | pointAliased (longitude latitude row column limit : Int64)
  /-- A shape reaches past the grid. -/
  | pastGrid (envelope : Box Float)
  /-- A shape does not touch the grid. -/
  | offGrid
  /-- The centre of a cell has been looked at. -/
  | visited (extent : Extent) (status : Status)
  /-- The cells of a shape have been selected. -/
  | selected (status : Status) (blocks : Nat)
  /-- The vertices of a query make no polygon. -/
  | queryRejected (index : String) (error : Error)
  /-- A query selects nothing. -/
  | queryEmpty (index : String)
  /-- A query has been answered. -/
  | queryAnswered (index : String) (vertices blocks ranges : Nat)
  /-- A handler type is about to be registered. -/
  | typeRegistered (type : String)

namespace Event

/-- The level from which on an event is told. -/
def level : Event → Level
  | pointAliased .. | pastGrid .. | queryRejected .. => .warn
  | visited .. => .trace
  | _ => .debug

/-- The word for a status. -/
def statusWord : Status → String
  | .disjoint => "Disjoint"
  | .partial => "Partial"
  | .full => "Full"

/-- A pair of floats between parentheses. -/
def pairText (x y : Float) : String := s!"({numberText x}, {numberText y})"

/-- A point as log lines write it. -/
def pointText (point : Point Float) : String :=
  s!"COORD({Style.spoken.text point.x} {Style.spoken.text point.y})"

/-- The wording. -/
def message : Event → String
  | gridDerived level delta bounds =>
    s!"Grid derived: cut_level={level}, delta={pairText delta.x delta.y}, padded box=" ++
      s!"{pairText bounds.left bounds.bottom} -> {pairText bounds.right bounds.top}"
  | pointAliased longitude latitude row column limit =>
    s!"Point ({longitude}, {latitude}) is at row {row} column {column}, past {limit} cells per " ++
      "axis; its key aliases a cell inside the grid"
  | pastGrid envelope =>
    s!"Query envelope ({pointText envelope.low} -> {pointText envelope.high}) extends past grid " ++
      "bounds, rejecting"
  | offGrid => "Query polygon is disjoint from the grid"
  | visited extent status =>
    s!"leaf rows [{extent.startRow}, {extent.stopRow}) columns [{extent.startColumn}, " ++
      s!"{extent.stopColumn}) -> {statusWord status}"
  | selected status blocks => s!"Query inserted: root {statusWord status}, {blocks} nodes"
  | queryRejected index error => s!"Rejected query polygon on '{index}': {error.message}"
  | queryEmpty index => s!"Query on '{index}' selected no cells"
  | queryAnswered index vertices blocks ranges =>
    s!"Query on '{index}': {vertices} vertices, {blocks} tree nodes, {ranges} ranges"
  | typeRegistered type => s!"Registering index handler type '{type}'"

end Event

/-! ## Answers with events -/

/-- A value and the events on the way to it. -/
structure Logged (α : Type) where
  /-- The value. -/
  value : α
  /-- The events in order. -/
  events : List Event

namespace Logged

instance : Monad Logged where
  pure value := ⟨value, []⟩
  bind logged next :=
    let result := next logged.value
    ⟨result.value, logged.events ++ result.events⟩

/-- One event. -/
def tell (event : Event) : Logged Unit := ⟨(), [event]⟩

/-- Several events. -/
def tellAll (events : List Event) : Logged Unit := ⟨(), events⟩

/-- The lines of the log up to a level. -/
def lines {α : Type} (level : Level) (logged : Logged α) : List (Level × String) :=
  (logged.events.filter fun event => event.level.rank ≤ level.rank).map fun event =>
    (event.level, event.message)

@[simp] theorem value_pure {α : Type} (value : α) : (pure value : Logged α).value = value := rfl

@[simp] theorem events_pure {α : Type} (value : α) : (pure value : Logged α).events = [] := rfl

@[simp] theorem value_bind {α β : Type} (logged : Logged α) (next : α → Logged β) :
    (logged >>= next).value = (next logged.value).value := rfl

@[simp] theorem events_bind {α β : Type} (logged : Logged α) (next : α → Logged β) :
    (logged >>= next).events = logged.events ++ (next logged.value).events := rfl

end Logged

/-- A computation that may fail, with the events on the way. -/
abbrev Attempt (α : Type) := ExceptT Error Logged α

namespace Attempt

/-- The outcome of an attempt with its events. -/
def outcome {α : Type} (attempt : Attempt α) : Logged (Except Error α) := attempt.run

/-- The answer of an attempt. -/
def result {α : Type} (attempt : Attempt α) : Except Error α := attempt.run.value

/-- The events of an attempt. -/
def events {α : Type} (attempt : Attempt α) : List Event := attempt.run.events

/-- A result without events. -/
def ofExcept {α : Type} (result : Except Error α) : Attempt α := ExceptT.mk (pure result)

/-- One event. -/
def tell (event : Event) : Attempt Unit := ExceptT.lift (Logged.tell event)

/-- Several events. -/
def tellAll (events : List Event) : Attempt Unit := ExceptT.lift (Logged.tellAll events)

instance : MonadLift (Except Error) (ExceptT Error Logged) := ⟨ofExcept⟩

/-! ### Results and events

What follows a step that succeeds adds its events; what follows one that fails does not happen. -/

section Steps

variable {α β : Type} {attempt : Attempt α} {value : α} {error : Error}

@[simp] theorem result_ofExcept (result : Except Error α) : (ofExcept result).result = result := rfl

@[simp] theorem events_ofExcept (result : Except Error α) : (ofExcept result).events = [] := rfl

@[simp] theorem result_pure (value : α) : (pure value : Attempt α).result = .ok value := rfl

@[simp] theorem events_pure (value : α) : (pure value : Attempt α).events = [] := rfl

@[simp] theorem result_tell (event : Event) : (tell event).result = .ok () := rfl

@[simp] theorem events_tell (event : Event) : (tell event).events = [event] := rfl

theorem result_bind_of_ok (h : attempt.result = .ok value) (next : α → Attempt β) :
    (attempt >>= next).result = (next value).result := by
  change (ExceptT.bindCont next attempt.result).value = _
  rw [h]
  rfl

theorem events_bind_of_ok (h : attempt.result = .ok value) (next : α → Attempt β) :
    (attempt >>= next).events = attempt.events ++ (next value).events := by
  change attempt.events ++ (ExceptT.bindCont next attempt.result).events = _
  rw [h]
  rfl

theorem result_bind_of_error (h : attempt.result = .error error) (next : α → Attempt β) :
    (attempt >>= next).result = .error error := by
  change (ExceptT.bindCont next attempt.result).value = _
  rw [h]
  rfl

end Steps

end Attempt

end ZGrid
