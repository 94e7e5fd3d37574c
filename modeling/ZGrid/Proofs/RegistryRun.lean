import Mathlib.Data.String.Basic
import ZGrid.Proofs.ResultRow
import ZGrid.Proofs.TrimmedFields
import ZGrid.Registry

/-!
# Proofs/RegistryRun — what a registry holds after any registrations

A registry that starts with the type of grids has a history, that type and then the calls in order.
Names are compared in small letters, and a name is bound to the factory of its latest call:

```
   history   geohash ↦ grid    Foo ↦ f    bar ↦ g    FOO ↦ h
   bound     bar ↦ g    foo ↦ h    geohash ↦ grid
```

The names stand in ascending order, each once, because binding keeps them so (`pairwise_bind`); what
a name is bound to is one look-up after one binding (`value?_bind`), whatever the order is.  What is
created then depends on the binding of one name alone.
-/

namespace ZGrid

/-! ## Binding a name -/

namespace Bindings

variable {φ : Type} {name first : String} {value former : φ} {bindings rest : Bindings φ}

theorem bind_of_lt (h : name < first) :
    bind name value ((first, former) :: rest) = (name, value) :: (first, former) :: rest := if_pos h

theorem bind_of_gt (h : first < name) :
    bind name value ((first, former) :: rest) = (first, former) :: rest.bind name value :=
  (if_neg (lt_asymm h)).trans (if_pos h)

theorem bind_self : bind name value ((name, former) :: rest) = (name, value) :: rest :=
  (if_neg (lt_irrefl name)).trans (if_neg (lt_irrefl name))

theorem value?_cons (other : String) : value? ((name, value) :: rest) other
    = if name = other then some value else rest.value? other := by
  rw [value?, List.find?_cons]
  by_cases h : name = other
  · simp [h]
  · simp only [beq_eq_false_iff_ne.mpr h, if_neg h, value?]

/-- **A name is bound anew, and the others are bound as before.** -/
theorem value?_bind (other : String) : (bindings.bind name value).value? other
    = if name = other then some value else bindings.value? other := by
  induction bindings with
  | nil => exact value?_cons other
  | cons binding rest ih =>
    obtain ⟨first, former⟩ := binding
    obtain hbefore | rfl | hbehind := lt_trichotomy name first
    · rw [bind_of_lt hbefore, value?_cons]
    · rw [bind_self, value?_cons, value?_cons]
      split_ifs <;> rfl
    · rw [bind_of_gt hbehind, value?_cons, value?_cons, ih]
      split_ifs with hfirst hname
      · exact absurd (hname.trans hfirst.symm) hbehind.ne'
      all_goals rfl

theorem mem_names_bind {other : String} :
    other ∈ (bindings.bind name value).map (·.1) ↔ other = name ∨ other ∈ bindings.map (·.1) := by
  induction bindings with
  | nil => exact List.mem_cons
  | cons binding rest ih =>
    obtain ⟨first, former⟩ := binding
    obtain hbefore | rfl | hbehind := lt_trichotomy name first
    · rw [bind_of_lt hbefore, List.map_cons, List.mem_cons]
    · simp [bind_self]
    · rw [bind_of_gt hbehind, List.map_cons, List.mem_cons, ih, List.map_cons, List.mem_cons]
      exact or_left_comm

/-- **Binding keeps the names in order.** -/
theorem pairwise_bind (h : (bindings.map (·.1)).Pairwise (· < ·)) :
    ((bindings.bind name value).map (·.1)).Pairwise (· < ·) := by
  induction bindings with
  | nil => exact List.pairwise_singleton ..
  | cons binding rest ih =>
    obtain ⟨first, former⟩ := binding
    obtain ⟨hfirst, hrest⟩ := List.pairwise_cons.mp h
    obtain hbefore | rfl | hbehind := lt_trichotomy name first
    · rw [bind_of_lt hbefore]
      refine List.pairwise_cons.mpr ⟨fun other hother => ?_, h⟩
      obtain rfl | hother := List.mem_cons.mp hother
      · exact hbefore
      · exact hbefore.trans (hfirst other hother)
    · rw [bind_self]
      exact h
    · rw [bind_of_gt hbehind]
      refine List.pairwise_cons.mpr ⟨fun other hother => ?_, ih hrest⟩
      obtain rfl | hother := mem_names_bind.mp hother
      · exact hbehind
      · exact hfirst other hother

end Bindings

/-! ## Attempts in a row -/

instance : LawfulMonad Logged := LawfulMonad.mk' Logged
  (fun logged => by
    obtain ⟨value, events⟩ := logged
    exact congrArg (Logged.mk value) (List.append_nil events))
  (fun _ _ => rfl)
  (fun logged first second => congrArg (Logged.mk _) (List.append_assoc ..))

/-- The results of a row of attempts are a row of results. -/
theorem Attempt.result_mapM {α β : Type} (f : α → Attempt β) (items : List α) :
    (items.mapM f).result = items.mapM fun item => (f item).result := by
  induction items with
  | nil => rfl
  | cons item items ih =>
    rw [List.mapM_cons, List.mapM_cons, ← ih]
    cases hitem : (f item).result with
    | error error => exact result_bind_of_error hitem _
    | ok value =>
      rw [result_bind_of_ok hitem]
      cases hitems : (items.mapM f).result with
      | error error => exact result_bind_of_error hitems _
      | ok rest => exact result_bind_of_ok hitems _

/-! ## The history of a registry -/

/-- A factory to be registered under a name. -/
structure Registration where
  /-- The name of the type. -/
  type : String
  /-- The factory. -/
  factory : Factory

namespace Registry

/-- The registry after a list of registrations. -/
def run (registry : Registry) (calls : List Registration) : Registry :=
  calls.foldl (fun registry call => (registry.register call.type call.factory).value.2) registry

/-- The registration that every history begins with. -/
def grids : Registration := ⟨gridType, GridIndex.factory⟩

/-- The factory of the latest registration under a name in small letters. -/
def latest? (calls : List Registration) (type : String) : Option Factory :=
  ((grids :: calls).reverse.find? fun call => Text.lowercase call.type == type).map (·.factory)

variable {registry : Registry} {calls : List Registration} {call : Registration} {type : String}
  {factory : Factory} {handler : String} {properties : Properties}

theorem lowercase_gridType : Text.lowercase gridType = gridType := by decide +kernel

theorem latest?_nil (type : String) :
    latest? [] type = if gridType = type then some GridIndex.factory else none := by
  change (List.find? _ [grids]).map _ = _
  rw [List.find?_singleton, grids, lowercase_gridType]
  by_cases h : gridType = type
  · simp [h]
  · simp [h]

theorem latest?_concat (calls : List Registration) (call : Registration) (type : String) :
    latest? (calls ++ [call]) type
      = if Text.lowercase call.type = type then some call.factory else latest? calls type := by
  rw [latest?, ← List.cons_append, List.reverse_append, List.reverse_singleton,
    List.singleton_append, List.find?_cons]
  by_cases h : Text.lowercase call.type = type
  · simp [h]
  · simp only [beq_eq_false_iff_ne.mpr h, if_neg h, latest?]

theorem latest?_eq_none_iff : latest? calls type = none
    ↔ gridType ≠ type ∧ ∀ call ∈ calls, Text.lowercase call.type ≠ type := by
  rw [latest?, Option.map_eq_none_iff, List.find?_eq_none]
  simp only [List.mem_reverse, List.forall_mem_cons, grids, lowercase_gridType, beq_iff_eq, ne_eq]

/-! ## One registration -/

theorem factory?_register (registry : Registry) (type : String) (factory : Factory)
    (other : String) : (registry.register type factory).value.2.factory? other
      = if Text.lowercase type = other then some factory else registry.factory? other :=
  Bindings.value?_bind other

theorem run_concat (registry : Registry) (calls : List Registration) (call : Registration) :
    registry.run (calls ++ [call])
      = ((registry.run calls).register call.type call.factory).value.2 := List.foldl_concat ..

/-- **A name is bound to the factory of its latest registration.** -/
theorem factory?_run (calls : List Registration) (type : String) :
    (standard.run calls).factory? type = latest? calls type := by
  induction calls using List.reverseRecOn with
  | nil => exact (Bindings.value?_cons type).trans (latest?_nil type).symm
  | append_singleton calls call ih => rw [run_concat, factory?_register, ih, latest?_concat]

/-- **The names are in ascending order.** -/
theorem pairwise_names_run (calls : List Registration) :
    (standard.run calls).names.Pairwise (· < ·) := by
  induction calls using List.reverseRecOn with
  | nil => exact List.pairwise_singleton ..
  | append_singleton calls call ih =>
    rw [run_concat]
    exact Bindings.pairwise_bind ih

theorem mem_names_run {name : String} : name ∈ (standard.run calls).names
    ↔ name = gridType ∨ ∃ call ∈ calls, Text.lowercase call.type = name := by
  induction calls using List.reverseRecOn with
  | nil => simp [run, names, standard]
  | append_singleton calls call ih =>
    rw [run_concat]
    change name ∈ List.map _ (Bindings.bind _ _ _) ↔ _
    rw [Bindings.mem_names_bind]
    change _ ∨ name ∈ names _ ↔ _
    rw [ih]
    simp only [List.mem_append, List.mem_singleton, or_and_right, exists_or, exists_eq_left]
    rw [or_left_comm, eq_comm (a := name) (b := Text.lowercase call.type),
      or_comm (a := Text.lowercase _ = name)]

/-! ## Creating a handler -/

/-- The property that tells the type of a handler: there is one of its name, up to the case of ASCII
letters, and whichever it is, it has the value. -/
structure HoldsType (handler : String) (properties : Properties) (value : String) : Prop where
  /-- There is one. -/
  exists_entry : ∃ entry ∈ properties, Text.sameLetters entry.1 (typeKey handler) = true
  /-- It has the value. -/
  value_eq : ∀ entry ∈ properties,
    Text.sameLetters entry.1 (typeKey handler) = true → entry.2 = value

theorem HoldsType.typeOf_eq {value : String} (h : HoldsType handler properties value) :
    typeOf handler properties = .ok (Text.lowercase (Text.trim value)) := by
  rw [typeOf]
  cases hfind : properties.find? fun entry => Text.sameLetters entry.1 (typeKey handler) with
  | none =>
    obtain ⟨entry, hentry, hname⟩ := h.exists_entry
    exact absurd hname (List.find?_eq_none.mp hfind entry hentry)
  | some entry =>
    have hname : Text.sameLetters entry.1 (typeKey handler) = true := by
      simpa using List.find?_some hfind
    rw [← h.value_eq entry (List.mem_of_find?_eq_some hfind) hname]

theorem create_of_typeOf (h : typeOf handler properties = .ok type) :
    registry.create handler properties = match registry.factory? type with
      | some factory => factory handler properties
      | none => throw (.unknownHandler type) := by
  rw [create, h]
  rfl

/-- **A registration concerns the handlers of its own type.** -/
theorem create_register_of_ne (h : typeOf handler properties ≠ .ok (Text.lowercase type)) :
    (registry.register type factory).value.2.create handler properties
      = registry.create handler properties := by
  cases htype : typeOf handler properties with
  | error error =>
    rw [create, create, htype]
    rfl
  | ok other =>
    have hne : Text.lowercase type ≠ other := fun heq => h (heq ▸ htype)
    rw [create_of_typeOf htype, create_of_typeOf htype, factory?_register, if_neg hne]

/-- **A type is unknown if nothing is registered for it**, or if its own factory says so. -/
theorem result_create_eq_unknown_iff (h : typeOf handler properties = .ok type) :
    (registry.create handler properties).result = .error (.unknownHandler type)
      ↔ registry.factory? type = none ∨ ∃ factory, registry.factory? type = some factory
        ∧ (factory handler properties).result = .error (.unknownHandler type) := by
  rw [create_of_typeOf h]
  cases registry.factory? type with
  | none => exact iff_of_true rfl (.inl rfl)
  | some factory => simp

/-- The entries of a list that are not blank, without the blanks around them. -/
def listed (entries : List String) : List String := (entries.map Text.trim).filter (· ≠ "")

theorem declared?_of_intercalate {entries : List String} (hne : entries ≠ [])
    (hcomma : ∀ entry ∈ entries, ',' ∉ entry.toList)
    (h : properties.value? indexHandler = some (",".intercalate entries)) :
    properties.declared? = some (listed entries) := by
  rw [Properties.declared?, h, Option.map_some]
  exact congrArg (fun fields => some (listed fields)) (Text.fields_intercalate hcomma hne)

theorem result_createAll_of_declared {names : List String}
    (h : properties.declared? = some names) : (registry.createAll properties).result
      = names.mapM fun name => (registry.create name properties).result := by
  rw [createAll, h]
  exact Attempt.result_mapM _ names

/-- **What a registry does after any registrations**, begun with the type of grids alone.

* Its names are in ascending order; they are the names of the registrations in small letters, and
  that of grids.
* A registration returns the factory that its name was bound to, the one of the latest registration
  of the name, and nothing if there was none.
* A handler is made by the factory of the latest registration of its type, and refused as unknown if
  there was none; no other refusal looks so, unless it is that of the factory itself.
* A registration makes no difference to the handlers of other types.
* Of a list of handlers the blank names are left out; the others are made in order, up to the first
  that fails. -/
theorem registered_run (calls : List Registration) :
    ((standard.run calls).names.Pairwise (· < ·)
        ∧ ∀ name, name ∈ (standard.run calls).names
          ↔ name = gridType ∨ ∃ call ∈ calls, Text.lowercase call.type = name)
      ∧ (∀ type factory,
        ((standard.run calls).register type factory).value
            = (latest? calls (Text.lowercase type), standard.run (calls ++ [⟨type, factory⟩]))
          ∧ (latest? calls (Text.lowercase type) = none ↔ gridType ≠ Text.lowercase type
            ∧ ∀ call ∈ calls, Text.lowercase call.type ≠ Text.lowercase type))
      ∧ (∀ handler properties value type, HoldsType handler properties value →
        Text.lowercase (Text.trim value) = type →
          ((standard.run calls).create handler properties = match latest? calls type with
            | some factory => factory handler properties
            | none => throw (.unknownHandler type))
          ∧ (((standard.run calls).create handler properties).result
              = .error (.unknownHandler type)
            ↔ latest? calls type = none ∨ ∃ factory, latest? calls type = some factory
              ∧ (factory handler properties).result = .error (.unknownHandler type)))
      ∧ (∀ type factory handler properties,
        typeOf handler properties ≠ .ok (Text.lowercase type) →
          (standard.run (calls ++ [⟨type, factory⟩])).create handler properties
            = (standard.run calls).create handler properties)
      ∧ ∀ properties entries, entries ≠ [] → (∀ entry ∈ entries, ',' ∉ entry.toList) →
        properties.value? indexHandler = some (",".intercalate entries) →
          (∀ handlers, ((standard.run calls).createAll properties).result = .ok handlers
            ↔ List.Forall₂ (fun name made =>
              ((standard.run calls).create name properties).result = .ok made)
              (listed entries) handlers)
          ∧ ∀ error, ((standard.run calls).createAll properties).result = .error error
            ↔ ∃ before name after, listed entries = before ++ name :: after
              ∧ (∀ earlier ∈ before, ∃ made,
                ((standard.run calls).create earlier properties).result = .ok made)
              ∧ ((standard.run calls).create name properties).result = .error error := by
  refine ⟨⟨pairwise_names_run calls, fun name => mem_names_run⟩, fun type factory => ⟨?_, ?_⟩,
    fun handler properties value type hvalue htype => ?_, fun type factory handler properties hne =>
      ?_, fun properties entries hne hcomma hlisted => ?_⟩
  · rw [run_concat, ← factory?_run]
    rfl
  · exact latest?_eq_none_iff
  · have htypeOf := htype ▸ hvalue.typeOf_eq
    rw [← factory?_run]
    exact ⟨create_of_typeOf htypeOf, result_create_eq_unknown_iff htypeOf⟩
  · rw [run_concat, create_register_of_ne hne]
  · rw [result_createAll_of_declared (declared?_of_intercalate hne hcomma hlisted)]
    exact ⟨fun handlers => mapM_eq_ok_iff, fun error => mapM_eq_error_iff⟩

/-- A factory that makes no handler. -/
def refusing (word : String) : Factory := fun _ _ => throw (.config (.other word))

/-- Two registrations of one name, spelled in two ways, and one of another. -/
def fooCalls : List Registration :=
  [⟨"Foo", refusing "first"⟩, ⟨"bar", refusing "other"⟩, ⟨"FOO", refusing "second"⟩]

/-- A table with one handler, listed twice. -/
def fooTable : Properties := [(indexHandler, " a, ,a"), ("INDEX_HANDLER.a.Type", " fOO ")]

private theorem holdsType_fooTable : HoldsType "a" fooTable " fOO " :=
  ⟨⟨("INDEX_HANDLER.a.Type", " fOO "), by decide, by decide +kernel⟩, by decide +kernel⟩

/-- The later spelling of the name counts, and a registration of another name changes nothing. -/
theorem registered_run_foo : HoldsType "a" fooTable " fOO "
    ∧ (standard.run fooCalls).create "a" fooTable = refusing "second" "a" fooTable
    ∧ (standard.run (fooCalls ++ [⟨"BAR", refusing "late"⟩])).create "a" fooTable
      = (standard.run fooCalls).create "a" fooTable
    ∧ ((standard.run fooCalls).createAll fooTable).result = .error (.config (.other "second")) := by
  obtain ⟨-, -, hcreate, hother, hall⟩ := registered_run fooCalls
  have hlatest : latest? fooCalls "foo" = some (refusing "second") :=
    (latest?_concat (fooCalls.take 2) ⟨"FOO", refusing "second"⟩ "foo").trans
      (if_pos (by decide +kernel))
  have hmade := (hcreate "a" fooTable " fOO " "foo" holdsType_fooTable (by decide +kernel)).1
  rw [hlatest] at hmade
  have hne : typeOf "a" fooTable ≠ .ok (Text.lowercase "BAR") := by
    rw [holdsType_fooTable.typeOf_eq, ne_eq, Except.ok.injEq]
    decide +kernel
  refine ⟨holdsType_fooTable, hmade, hother "BAR" (refusing "late") "a" fooTable hne, ?_⟩
  refine ((hall fooTable [" a", " ", "a"] (by decide) (by decide) (by decide)).2 _).mpr
    ⟨[], "a", ["a"], by decide +kernel, nofun, ?_⟩
  rw [hmade]
  rfl

end Registry

end ZGrid
