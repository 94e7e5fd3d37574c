import Mathlib.Data.List.Find
import Mathlib.Data.Set.Subsingleton
import ZGrid.Proofs.HandlerOrigin

/-!
# Proofs/RespelledKeys — the spelling and the order of properties do not count

```
   index_handler                 mygrid          INDEX_HANDLER.mygrid.TYPE     geohash
   index_handler.mygrid.type     geohash    ~    index_handler                 mygrid
   index_handler.mygrid.gridsize 50              index_handler.mygrid.gridSize 50
```

A table is searched in three ways: for exactly `index_handler`, for a name in small letters and
for a name up to the case of ASCII letters.  None of them tells a name from another spelling of it,
and where no two names have one small form, each finds one property or none.  So every search has
one answer (`Respelled.find?_eq`), and all that is made of a table is made of such answers.
-/

namespace ZGrid

open Registry

/-! ## Tables that differ in spelling and order -/

namespace Properties

/-- A property under another spelling of its name: ASCII letters are in another case.  The name that
declares handlers has one spelling. -/
structure Respells (entry other : String × String) : Prop where
  /-- The names have the same letters. -/
  letters : Text.sameLetters entry.1 other.1 = true
  /-- Both declare handlers, or none does. -/
  declares : entry.1 = indexHandler ↔ other.1 = indexHandler
  /-- The values are one. -/
  value : entry.2 = other.2

/-- A table with its properties in another order and under other spellings. -/
def Respelled (properties others : Properties) : Prop :=
  ∃ reordered, properties.Perm reordered ∧ List.Forall₂ Respells reordered others

/-- No two names of the table have one small form. -/
def Distinct (properties : Properties) : Prop :=
  (properties.map fun entry => Text.lowercase entry.1).Nodup

variable {properties others : Properties}

/-- **One answer.**  A search that does not tell spellings apart, and that two names match only if
they have one small form, finds the same value in both tables. -/
theorem Respelled.find?_eq (h : Respelled properties others) (hdistinct : Distinct properties)
    (search : String × String → Bool)
    (hspelling : ∀ entry other, Respells entry other → search entry = search other)
    (hsmall : ∀ entry other, search entry = true → search other = true →
      Text.lowercase entry.1 = Text.lowercase other.1) :
    (properties.find? search).map Prod.snd = (others.find? search).map Prod.snd := by
  obtain ⟨reordered, hperm, hrespells⟩ := h
  have hunique : {entry ∈ properties | search entry}.Subsingleton := by
    rintro entry ⟨hentry, hfound⟩ other ⟨hother, hfound'⟩
    exact List.inj_on_of_nodup_map hdistinct hentry hother (hsmall entry other hfound hfound')
  rw [List.find?_eq_find?_of_perm hperm hunique]
  clear hperm hunique
  induction hrespells with
  | nil => rfl
  | @cons entry other _ _ hentry _ ih =>
    rw [List.find?_cons, List.find?_cons, hspelling entry other hentry]
    cases search other with
    | true => exact congrArg some hentry.value
    | false => exact ih

end Properties

open Properties

variable {properties others : Properties}

/-! ## The three searches -/

theorem Registry.typeOf_eq (handler : String) (properties : Properties) :
    typeOf handler properties = match (properties.find? fun entry =>
        Text.sameLetters entry.1 (typeKey handler)).map Prod.snd with
      | some value => .ok (Text.lowercase (Text.trim value))
      | none => .error (.config (.absent (typeKey handler))) := by
  rw [typeOf]
  cases properties.find? fun entry => Text.sameLetters entry.1 (typeKey handler) <;> rfl

namespace HandlerProperties

/-- The name of a property in small letters is the stem of a handler and then a given name. -/
def isNamed (handler name : String) (entry : String × String) : Bool :=
  (Text.lowercase entry.1).toList == (Text.lowercase (stemText handler)).toList ++ name.toList

/-- A property belongs to a handler if its name in small letters begins with the stem. -/
theorem values_cons (handler : String) (entry : String × String) (properties : Properties) :
    (of handler (entry :: properties)).values
      = ((rest? (Text.lowercase (stemText handler)).toList (Text.lowercase entry.1).toList).map
          fun rest => (String.ofList rest, Text.trim entry.2)).toList
        ++ (of handler properties).values := by
  obtain ⟨name, value⟩ := entry
  simp only [of, stemText, List.filterMap_cons]
  cases rest? (Text.lowercase s!"{indexHandler}.{handler}.").toList
    (Text.lowercase name).toList <;> rfl

theorem value?_values (handler name : String) (properties : Properties) :
    (of handler properties).values.value? name
      = ((properties.find? (isNamed handler name)).map Prod.snd).map Text.trim := by
  induction properties with
  | nil => rfl
  | cons entry properties ih =>
    rw [values_cons, List.find?_cons]
    cases hrest : rest? (Text.lowercase (stemText handler)).toList
        (Text.lowercase entry.1).toList with
    | none =>
      have hother : isNamed handler name entry = false := by
        rw [isNamed, beq_eq_false_iff_ne]
        intro heq
        rw [rest?_eq_some_iff.mpr heq] at hrest
        cases hrest
      rw [hother]
      exact ih
    | some rest =>
      have hname : isNamed handler name entry = (String.ofList rest == name) := by
        rw [isNamed, rest?_eq_some_iff.mp hrest, Bool.eq_iff_iff, beq_iff_eq, beq_iff_eq,
          List.append_cancel_left_eq, ← String.toList_inj, String.toList_ofList]
      rw [hname, Option.map_some, Option.toList_some, List.singleton_append, Properties.value?,
        List.find?_cons]
      cases String.ofList rest == name with
      | true => rfl
      | false => exact ih

end HandlerProperties

section Searches

variable (h : Respelled properties others) (hdistinct : Distinct properties)
include h hdistinct

theorem Properties.Respelled.value?_indexHandler :
    properties.value? indexHandler = others.value? indexHandler := by
  refine h.find?_eq hdistinct _ (fun entry other hrespells => ?_)
    fun entry other hentry hother => ?_
  · rw [Bool.eq_iff_iff, beq_iff_eq, beq_iff_eq]
    exact hrespells.declares
  · rw [beq_iff_eq.mp hentry, beq_iff_eq.mp hother]

/-- The type of a handler is found up to the case of ASCII letters. -/
theorem Registry.typeOf_respelled (handler : String) :
    typeOf handler properties = typeOf handler others := by
  have hfind := h.find?_eq hdistinct
    (fun entry => Text.sameLetters entry.1 (typeKey handler)) ?_ ?_
  · rw [typeOf_eq, typeOf_eq, hfind]
  · intro entry other hrespells
    have hletters := beq_iff_eq.mp hrespells.letters
    simp only [Text.sameLetters, hletters]
  · intro entry other hentry hother
    exact (Text.lowercase_eq_of_sameLetters hentry).trans
      (Text.lowercase_eq_of_sameLetters hother).symm

/-- The properties of a handler are found in small letters. -/
theorem HandlerProperties.optional_respelled (handler name : String) :
    (of handler properties).optional name = (of handler others).optional name := by
  have hfind := h.find?_eq hdistinct (isNamed handler name) ?_ ?_
  · rw [optional, optional, value?_values, value?_values, hfind]
  · intro entry other hrespells
    rw [isNamed, isNamed, Text.lowercase_eq_of_sameLetters hrespells.letters]
  · intro entry other hentry hother
    exact String.toList_inj.mp ((beq_iff_eq.mp hentry).trans (beq_iff_eq.mp hother).symm)

end Searches

/-! ## What is made of a table -/

/-- Properties with one stem whose values are found alike are read alike. -/
theorem Config.read_congr {first second : HandlerProperties} (hstem : first.stem = second.stem)
    (hoptional : ∀ name, first.optional name = second.optional name) :
    read first = read second := by
  have hkey : ∀ name, first.key name = second.key name := fun name => by
    rw [HandlerProperties.key, HandlerProperties.key, hstem]
  have hrequired : ∀ name, first.required name = second.required name := fun name => by
    rw [HandlerProperties.required, HandlerProperties.required, hoptional, hkey]
  have hnumber : ∀ name, first.number name = second.number name := fun name => by
    rw [HandlerProperties.number, HandlerProperties.number, hrequired, hkey]
  have hinteger : ∀ name, first.integer name = second.integer name := fun name => by
    rw [HandlerProperties.integer, HandlerProperties.integer, hrequired, hkey]
  have hnames : ∀ name, first.names name = second.names name := fun name => by
    rw [HandlerProperties.names, HandlerProperties.names, hrequired]
  simp only [read, hkey, hrequired, hnumber, hinteger, hnames, hoptional]

/-- A factory that makes the same of tables that differ in spelling and order alone. -/
def Factory.IgnoresSpelling (factory : Factory) : Prop :=
  ∀ (handler : String) (properties others : Properties), Distinct properties →
    Respelled properties others → factory handler properties = factory handler others

section Tables

variable (h : Respelled properties others) (hdistinct : Distinct properties)
include h hdistinct

theorem Config.ofProperties_respelled (handler : String) :
    ofProperties handler properties = ofProperties handler others := by
  have hdeclared : checkDeclared handler properties = checkDeclared handler others := by
    rw [checkDeclared, checkDeclared, h.value?_indexHandler hdistinct]
  have hread : read (HandlerProperties.of handler properties)
      = read (HandlerProperties.of handler others) :=
    read_congr rfl (HandlerProperties.optional_respelled h hdistinct handler)
  rw [ofProperties, ofProperties, hdeclared, hread]

theorem Registry.create_respelled {registry : Registry}
    (hfactories : ∀ type factory, registry.factory? type = some factory → factory.IgnoresSpelling)
    (handler : String) : registry.create handler properties = registry.create handler others := by
  rw [create, create, typeOf_respelled h hdistinct]
  refine bind_congr fun type => ?_
  cases hfactory : registry.factory? type with
  | none => rfl
  | some factory => exact hfactories type factory hfactory handler properties others hdistinct h

end Tables

theorem GridIndex.ignoresSpelling_factory : Factory.IgnoresSpelling factory := by
  intro handler properties others hdistinct h
  rw [factory, factory, ofProperties, ofProperties, Config.ofProperties_respelled h hdistinct]

theorem Registry.ignoresSpelling_standard {type : String} {factory : Factory}
    (h : standard.factory? type = some factory) : factory.IgnoresSpelling := by
  obtain ⟨binding, hbinding, rfl⟩ := Option.map_eq_some_iff.mp h
  obtain rfl := List.mem_singleton.mp (List.mem_of_find?_eq_some hbinding)
  exact GridIndex.ignoresSpelling_factory

/-- **Spelling and order do not count.**  In a table whose names differ in small letters, the
properties may change places and the ASCII letters of their names may change case, but for the name
that declares handlers: configurations, types and handlers, or the errors in their place, stay as
they are. -/
theorem spelling_ignored (h : Respelled properties others) (hdistinct : Distinct properties)
    (handler : String) :
    Config.ofProperties handler properties = Config.ofProperties handler others
      ∧ typeOf handler properties = typeOf handler others
      ∧ standard.create handler properties = standard.create handler others
      ∧ ∀ registry : Registry, (∀ type factory, registry.factory? type = some factory →
          factory.IgnoresSpelling) →
        registry.create handler properties = registry.create handler others :=
  ⟨Config.ofProperties_respelled h hdistinct handler, typeOf_respelled h hdistinct handler,
    create_respelled h hdistinct (fun _ _ => ignoresSpelling_standard) handler,
    fun _ hfactories => create_respelled h hdistinct hfactories handler⟩

/-- A property under a name in capitals, but for the one that declares handlers. -/
def capitalized (entry : String × String) : String × String :=
  if entry.1 = indexHandler then entry
  else (String.ofList (entry.1.toList.map Char.toUpper), entry.2)

/-- A letter in capitals, by its number. -/
theorem val_toUpper (c : Char) : c.toUpper.val
    = if 'a'.val ≤ c.val ∧ c.val ≤ 'z'.val then c.val + ('A'.val - 'a'.val) else c.val := by
  delta Char.toUpper
  split_ifs <;> rfl

/-- A letter in small letters, by its number. -/
theorem val_toLower (c : Char) : c.toLower.val
    = if 'A'.val ≤ c.val ∧ c.val ≤ 'Z'.val then c.val + ('a'.val - 'A'.val) else c.val := by
  delta Char.toLower
  split_ifs <;> rfl

theorem toLower_toUpper (c : Char) : c.toUpper.toLower = c.toLower := by
  refine Char.ext ?_
  rw [val_toLower, val_toLower, val_toUpper]
  grind

/-- A capital letter is no small one. -/
theorem isLower_toUpper (c : Char) : c.toUpper.isLower = false := by
  change (decide ('a'.val ≤ c.toUpper.val) && decide (c.toUpper.val ≤ 'z'.val)) = false
  rw [val_toUpper]
  grind

/-- Capitals are another spelling of every name. -/
theorem respells_capitalized (entry : String × String) : Respells entry (capitalized entry) := by
  rw [capitalized]
  split
  · exact ⟨beq_self_eq_true _, Iff.rfl, rfl⟩
  · rename_i hother
    refine ⟨?_, iff_of_false hother fun hname => ?_, rfl⟩
    · rw [Text.sameLetters, String.toList_ofList, List.map_map, beq_iff_eq]
      exact List.map_congr_left fun c _ => (toLower_toUpper c).symm
    · -- The name that declares handlers has a small letter, and capitals have none.
      have hletters : entry.1.toList.map Char.toUpper = indexHandler.toList :=
        String.toList_ofList.symm.trans (congrArg String.toList hname)
      obtain ⟨c, -, hc⟩ := List.mem_map.mp (hletters ▸ (by decide : 'i' ∈ indexHandler.toList))
      have hcapital := isLower_toUpper c
      rw [hc] at hcapital
      exact absurd hcapital (by decide)

/-- The properties of a handler, in capitals and in the opposite order. -/
def capitalTable : Properties :=
  (propertyTable "mygrid" "mygrid" Config.cityText).reverse.map capitalized

theorem spelling_ignored_capitalTable :
    Respelled (propertyTable "mygrid" "mygrid" Config.cityText) capitalTable
      ∧ Distinct (propertyTable "mygrid" "mygrid" Config.cityText)
      ∧ Config.ofProperties "mygrid" capitalTable = .ok Config.city
      ∧ typeOf "mygrid" capitalTable = .ok gridType
      ∧ standard.create "mygrid" (propertyTable "mygrid" "mygrid" Config.cityText)
        = standard.create "mygrid" capitalTable := by
  have hdistinct := nodup_lowercase_propertyTable "mygrid" "mygrid" Config.cityText
  have hrespelled : Respelled (propertyTable "mygrid" "mygrid" Config.cityText) capitalTable :=
    ⟨_, (List.reverse_perm _).symm, List.forall₂_map_right_iff.mpr
      (List.forall₂_same.mpr fun entry _ => respells_capitalized entry)⟩
  obtain ⟨hconfig, htype, -, hcreate⟩ := spelling_ignored hrespelled hdistinct "mygrid"
  refine ⟨hrespelled, hdistinct, ?_, ?_, hcreate standard fun _ _ => ignoresSpelling_standard⟩
  · rw [← hconfig, Config.ofProperties_of_spelled (.refl _) (by decide) (by decide +kernel)
      Config.spelled_cityText (by decide +kernel), Config.validate_city]
    rfl
  · rw [← htype]
    refine (typeOf_eq_gridType_iff hdistinct).mpr ⟨("index_handler.mygrid.type", "geohash"), ?_⟩
    decide +kernel

end ZGrid
