import ZGrid.Proofs.WrittenProperties
import ZGrid.Registry

/-!
# Proofs/HandlerOrigin — a handler from the registry and from its own properties

```
   create        finds   index_handler.name.type   up to the case of ASCII letters
   ofProperties  finds   index_handler.name.type   up to the case of all letters
```

The registry looks for the type of a handler before it asks the factory, which looks for it again in
its own way.  What the registry creates is therefore what the factory makes of the properties
(`exists_index_of_create`), but the registry may miss a property that the factory finds, when it
is spelled with another letter than an ASCII one in the other case.
-/

namespace ZGrid

open Registry

variable {handler : String} {properties : Properties}

/-! ## What a look-up finds -/

/-- Names with one small form have the same properties. -/
theorem HandlerProperties.of_congr {other : String}
    (h : Text.lowercase (stemText handler) = Text.lowercase (stemText other))
    (properties : Properties) : of handler properties = of other properties := by
  rw [stemText, stemText] at h
  rw [of, of, h]

theorem HandlerProperties.exists_of_required {name value : String}
    (h : (of handler properties).required name = .ok value) :
    ∃ entry ∈ properties,
      (Text.lowercase entry.1).toList
          = (Text.lowercase (stemText handler)).toList ++ name.toList
        ∧ Text.trim entry.2 = value := by
  rw [required] at h
  split at h
  · rename_i found hfound
    obtain rfl : found = value := Except.ok.inj h
    have hvalue := (Option.filter_eq_some_iff.mp hfound).1
    rw [Properties.value?, Option.map_eq_some_iff] at hvalue
    obtain ⟨⟨key, value⟩, hfind, rfl⟩ := hvalue
    obtain rfl : key = name := by simpa using List.find?_some hfind
    exact mem_values_iff.mp (List.mem_of_find?_eq_some hfind)
  · cases h

theorem exists_of_bind_eq_ok {ε α β : Type} {first : Except ε α} {next : α → Except ε β} {b : β}
    (h : (first >>= next) = .ok b) : ∃ a, first = .ok a ∧ next a = .ok b := by
  cases first with
  | error error => cases h
  | ok a => exact ⟨a, rfl, h⟩

/-- A configuration is read from properties one of which names the type of grids. -/
theorem Config.exists_type_of_ofProperties {config : Config}
    (h : Config.ofProperties handler properties = .ok config) :
    ∃ entry ∈ properties,
      (Text.lowercase entry.1).toList
          = (Text.lowercase (stemText handler)).toList ++ "type".toList
        ∧ Text.sameLetters (Text.trim entry.2) gridType = true := by
  obtain ⟨_, -, h⟩ := exists_of_bind_eq_ok h
  obtain ⟨config, hread, -⟩ := exists_of_bind_eq_ok h
  obtain ⟨type, htype, hrest⟩ := exists_of_bind_eq_ok hread
  obtain ⟨entry, hentry, hkey, rfl⟩ := HandlerProperties.exists_of_required htype
  refine ⟨entry, hentry, hkey, ?_⟩
  by_contra hother
  rw [Bool.not_eq_true] at hother
  rw [hother] at hrest
  cases hrest

theorem exists_config_of_ofProperties {index : GridIndex}
    (h : (GridIndex.ofProperties handler properties).result = .ok index) :
    ∃ config, Config.ofProperties handler properties = .ok config := by
  cases hconfig : Config.ofProperties handler properties with
  | ok config => exact ⟨config, rfl⟩
  | error error =>
    have hresult : (GridIndex.ofProperties handler properties).result = .error error :=
      Attempt.result_bind_of_error (by rw [hconfig]; rfl) _
    rw [hresult] at h
    cases h

theorem result_ofProperties_of_ok {config : Config} {grid : Grid Float}
    (hconfig : Config.ofProperties handler properties = .ok config)
    (hgrid : (Grid.ofConfig config).result = .ok grid) :
    (GridIndex.ofProperties handler properties).result = .ok ⟨handler, config, grid⟩ := by
  have hindex : (GridIndex.ofConfig handler config).result = .ok ⟨handler, config, grid⟩ :=
    Attempt.result_bind_of_ok hgrid _
  rw [GridIndex.ofProperties, hconfig]
  exact hindex

/-! ## The handler of the registry -/

theorem typeKey_eq (handler : String) :
    typeKey handler = indexHandler ++ "." ++ handler ++ "." ++ "type" := by
  have hdot : ".type" = "." ++ "type" := by decide
  change indexHandler ++ "." ++ handler ++ ".type" = indexHandler ++ "." ++ handler ++ "." ++ "type"
  rw [hdot, ← String.append_assoc]

theorem typeOf_eq_ok_iff {type : String} : typeOf handler properties = .ok type ↔
    ∃ entry, properties.find? (fun entry => Text.sameLetters entry.1 (typeKey handler)) = some entry
      ∧ Text.lowercase (Text.trim entry.2) = type := by
  rw [typeOf]
  cases properties.find? fun entry => Text.sameLetters entry.1 (typeKey handler) with
  | none => simp
  | some entry => simp

theorem result_create_of_typeOf (h : typeOf handler properties = .ok gridType) :
    (standard.create handler properties).result
      = (GridIndex.factory handler properties).result := by
  rw [create, h]
  rfl

theorem result_factory_of_ok {index : GridIndex}
    (h : (GridIndex.ofProperties handler properties).result = .ok index) :
    (GridIndex.factory handler properties).result = .ok index.handler :=
  Attempt.result_bind_of_ok h _

/-- The registry knows no type but that of grids. -/
theorem typeOf_of_create {made : Handler}
    (h : (standard.create handler properties).result = .ok made) :
    typeOf handler properties = .ok gridType := by
  cases htype : typeOf handler properties with
  | error error =>
    rw [create, htype] at h
    cases h
  | ok type =>
    by_contra hother
    have hne : (gridType == type) = false := beq_eq_false_iff_ne.mpr fun heq => hother (heq ▸ rfl)
    have hnone : standard.factory? type = none := by
      simp [factory?, standard, Bindings.value?, hne]
    rw [create, htype, Attempt.result_bind_of_ok rfl, hnone] at h
    cases h

/-- **What the registry creates is what the factory makes of the properties.** -/
theorem exists_index_of_create {made : Handler}
    (h : (standard.create handler properties).result = .ok made) :
    ∃ index, (GridIndex.ofProperties handler properties).result = .ok index
      ∧ made = index.handler := by
  rw [result_create_of_typeOf (typeOf_of_create h)] at h
  cases hindex : (GridIndex.ofProperties handler properties).result with
  | error error =>
    have hfactory : (GridIndex.factory handler properties).result = .error error :=
      Attempt.result_bind_of_error hindex _
    rw [hfactory] at h
    cases h
  | ok index =>
    rw [result_factory_of_ok hindex] at h
    exact ⟨index, rfl, (Except.ok.inj h).symm⟩

section Distinct

variable (hdistinct : (properties.map fun entry => Text.lowercase entry.1).Nodup)
include hdistinct

theorem typeOf_eq_gridType_iff : typeOf handler properties = .ok gridType ↔
    ∃ entry ∈ properties, Text.sameLetters entry.1 (typeKey handler) = true
      ∧ Text.lowercase (Text.trim entry.2) = gridType := by
  rw [typeOf_eq_ok_iff]
  constructor
  · rintro ⟨entry, hfind, htype⟩
    have hletters : Text.sameLetters entry.1 (typeKey handler) = true := by
      simpa using List.find?_some hfind
    exact ⟨entry, List.mem_of_find?_eq_some hfind, hletters, htype⟩
  · rintro ⟨entry, hentry, hkey, htype⟩
    cases hfind : properties.find? fun entry => Text.sameLetters entry.1 (typeKey handler) with
    | none => exact absurd hkey (List.find?_eq_none.mp hfind entry hentry)
    | some found =>
      -- Both names have the small form of the type key, so they are one.
      have hletters : Text.sameLetters found.1 (typeKey handler) = true := by
        simpa using List.find?_some hfind
      have hsame : Text.lowercase found.1 = Text.lowercase entry.1 :=
        (Text.lowercase_eq_of_sameLetters hletters).trans
          (Text.lowercase_eq_of_sameLetters hkey).symm
      have heq := List.inj_on_of_nodup_map hdistinct (List.mem_of_find?_eq_some hfind) hentry hsame
      exact ⟨found, rfl, heq ▸ htype⟩

/-- The type key, spelled with its own letters, belongs to the handler, so that its value is the
type that the configuration was read with. -/
theorem typeOf_of_ofProperties {config : Config}
    (hconfig : Config.ofProperties handler properties = .ok config)
    (hkey : ∃ entry ∈ properties, Text.sameLetters entry.1 (typeKey handler) = true
      ∧ (Text.lowercase entry.1).toList
        = (Text.lowercase (stemText handler)).toList ++ "type".toList) :
    typeOf handler properties = .ok gridType := by
  obtain ⟨entry, hentry, hname, htype⟩ := Config.exists_type_of_ofProperties hconfig
  obtain ⟨other, hother, hletters, hsmall⟩ := hkey
  obtain rfl : other = entry := List.inj_on_of_nodup_map hdistinct hother hentry
    (String.toList_inj.mp (hsmall.trans hname.symm))
  refine (typeOf_eq_gridType_iff hdistinct).mpr ⟨other, hother, hletters, ?_⟩
  rw [Text.lowercase_eq_of_sameLetters htype]
  decide +kernel

/-- **The two ways to a handler.**  What the registry creates is the handler of the index that the
properties declare.  When they declare one, the registry creates its handler if and only if some
property holds the type `geohash` under the name of the type key, up to the case of ASCII letters;
and it does so whenever the type is given under a name with these letters, unless the name of the
handler ends in a `Σ`. -/
theorem create_iff_ofProperties :
    (∀ made, (standard.create handler properties).result = .ok made →
        ∃ index, (GridIndex.ofProperties handler properties).result = .ok index
          ∧ made = index.handler) ∧
      ∀ index, (GridIndex.ofProperties handler properties).result = .ok index →
        ((standard.create handler properties).result = .ok index.handler ↔
            ∃ entry ∈ properties, Text.sameLetters entry.1 (typeKey handler) = true
              ∧ Text.lowercase (Text.trim entry.2) = gridType) ∧
          (Text.endsInSigma (stemText handler).toList = false →
            (∃ entry ∈ properties, Text.sameLetters entry.1 (typeKey handler) = true) →
            (standard.create handler properties).result = .ok index.handler) := by
  refine ⟨fun made => exists_index_of_create, fun index hindex => ?_⟩
  have hcreate : typeOf handler properties = .ok gridType →
      (standard.create handler properties).result = .ok index.handler := fun htype => by
    rw [result_create_of_typeOf htype, result_factory_of_ok hindex]
  refine ⟨⟨fun hmade => ?_, fun hentry => ?_⟩, fun hsigma hentry => ?_⟩
  · exact (typeOf_eq_gridType_iff hdistinct).mp (typeOf_of_create hmade)
  · exact hcreate ((typeOf_eq_gridType_iff hdistinct).mpr hentry)
  · obtain ⟨config, hconfig⟩ := exists_config_of_ofProperties hindex
    obtain ⟨entry, hmem, hletters⟩ := hentry
    refine hcreate (typeOf_of_ofProperties hdistinct hconfig ⟨entry, hmem, hletters, ?_⟩)
    rw [Text.lowercase_eq_of_sameLetters hletters, typeKey_eq]
    exact lowercase_key_eq (by decide) hsigma

end Distinct

/-- Names in ASCII letters: the registry creates the handler of every index they declare. -/
theorem create_mygrid :
    ((propertyTable "mygrid" "mygrid" Config.cityText).map fun entry =>
        Text.lowercase entry.1).Nodup
      ∧ Config.ofProperties "mygrid" (propertyTable "mygrid" "mygrid" Config.cityText)
        = .ok Config.city
      ∧ ∀ index, (GridIndex.ofProperties "mygrid"
          (propertyTable "mygrid" "mygrid" Config.cityText)).result = .ok index →
        (standard.create "mygrid" (propertyTable "mygrid" "mygrid" Config.cityText)).result
          = .ok index.handler := by
  have hdistinct := nodup_lowercase_propertyTable "mygrid" "mygrid" Config.cityText
  refine ⟨hdistinct, ?_, fun index hindex => ?_⟩
  · rw [Config.ofProperties_of_spelled (.refl _) (by decide) (by decide +kernel)
      Config.spelled_cityText (by decide +kernel), Config.validate_city]
    rfl
  · refine ((create_iff_ofProperties hdistinct).2 index hindex).2 (by decide +kernel) ?_
    exact ⟨("index_handler.mygrid.type", "geohash"), by decide +kernel, by decide +kernel⟩

/-- **A name with another capital than an ASCII one.**  Its properties, named in small letters, give
a configuration, and an index if the configuration has a grid; the registry does not find the
type. -/
theorem create_umlaut :
    ((propertyTable "ä" "Ä" Config.cityText).map fun entry => Text.lowercase entry.1).Nodup
      ∧ Config.ofProperties "Ä" (propertyTable "ä" "Ä" Config.cityText) = .ok Config.city
      ∧ (∀ grid, (Grid.ofConfig Config.city).result = .ok grid →
        (GridIndex.ofProperties "Ä" (propertyTable "ä" "Ä" Config.cityText)).result
          = .ok ⟨"Ä", Config.city, grid⟩)
      ∧ (standard.create "Ä" (propertyTable "ä" "Ä" Config.cityText)).result
        = .error (.config (.absent "index_handler.Ä.type")) := by
  have hconfig : Config.ofProperties "Ä" (propertyTable "ä" "Ä" Config.cityText)
      = .ok Config.city := by
    have hdeclared := Config.checkDeclared_of_listed
      (.refl (propertyTable "ä" "Ä" Config.cityText)) (by decide : "Ä" ≠ "") (by decide +kernel)
    have hread := Config.read_of_spelled (.refl (propertyTable "ä" "Ä" Config.cityText))
      Config.spelled_cityText (by decide +kernel)
    have hsame := HandlerProperties.of_congr (by decide +kernel :
      Text.lowercase (stemText "Ä") = Text.lowercase (stemText "ä"))
      (propertyTable "ä" "Ä" Config.cityText)
    rw [Config.ofProperties, hdeclared, hsame, hread]
    change (Config.city.validate >>= fun _ => pure Config.city) = _
    rw [Config.validate_city]
    rfl
  have hcreate : (standard.create "Ä" (propertyTable "ä" "Ä" Config.cityText)).result
      = .error (.config (.absent "index_handler.Ä.type")) := by
    have hnone : (propertyTable "ä" "Ä" Config.cityText).find?
        (fun entry => Text.sameLetters entry.1 (typeKey "Ä")) = none := by decide +kernel
    have hkey : typeKey "Ä" = "index_handler.Ä.type" := by decide
    rw [create, typeOf, hnone, hkey]
    rfl
  exact ⟨nodup_lowercase_propertyTable .., hconfig, fun grid => result_ofProperties_of_ok hconfig,
    hcreate⟩

end ZGrid
