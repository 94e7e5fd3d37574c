import ZGrid.GridIndex

/-!
# Registry — handlers by the names of their types

A registry binds names of handler types, in small letters, to factories.  A later registration
under a name takes the place of an earlier one.  The names are kept in ascending order of their
characters.

A handler is created from its type, which is a property of the table: that property's name is
found without regard to the case of ASCII letters.
-/

namespace ZGrid

/-- Names in ascending order, each with what it is bound to. -/
abbrev Bindings (φ : Type) := List (String × φ)

namespace Bindings

variable {φ : Type}

/-- What a name is bound to. -/
def value? (bindings : Bindings φ) (name : String) : Option φ :=
  (bindings.find? (·.1 == name)).map (·.2)

/-- The bindings with a name bound anew. -/
def bind (name : String) (value : φ) : Bindings φ → Bindings φ
  | [] => [(name, value)]
  | (other, former) :: rest =>
    if name < other then (name, value) :: (other, former) :: rest
    else if other < name then (other, former) :: bind name value rest
    else (name, value) :: rest

end Bindings

/-- The factories of handler types. -/
structure Registry where
  /-- The factory of each type. -/
  factories : Bindings Factory

namespace Registry

/-- The registry that knows grid indexes alone. -/
def standard : Registry := ⟨[(gridType, GridIndex.factory)]⟩

/-- The names of the types in ascending order. -/
def names (registry : Registry) : List String := registry.factories.map (·.1)

/-- The factory of a type whose name is in small letters. -/
def factory? (registry : Registry) (type : String) : Option Factory := registry.factories.value? type

/-- The registry with a factory registered, and the factory whose place it takes. -/
def register (registry : Registry) (type : String) (factory : Factory) :
    Logged (Option Factory × Registry) := do
  let type := Text.lowercase type
  Logged.tell (.typeRegistered type)
  return (registry.factory? type, ⟨registry.factories.bind type factory⟩)

/-- The name of the property that holds the type of a handler. -/
def typeKey (handler : String) : String := s!"{indexHandler}.{handler}.type"

/-- The type of a handler in the properties of a table. -/
def typeOf (handler : String) (properties : Properties) : Except Error String :=
  match properties.find? fun (name, _) => Text.sameLetters name (typeKey handler) with
  | some (_, value) => .ok (Text.lowercase (Text.trim value))
  | none => .error (.config (.absent (typeKey handler)))

/-- The handler that a table declares under a name. -/
def create (registry : Registry) (handler : String) (properties : Properties) :
    Attempt Handler := do
  let type ← typeOf handler properties
  match registry.factory? type with
  | some factory => factory handler properties
  | none => throw (.unknownHandler type)

/-- All handlers that a table declares, in order. -/
def createAll (registry : Registry) (properties : Properties) : Attempt (List Handler) :=
  match properties.declared? with
  | some handlers => handlers.mapM fun handler => registry.create handler properties
  | none => throw (.config .undeclared)

end Registry

end ZGrid
