import Mathlib.Data.List.Nodup
import ZGrid.Config.Properties
import ZGrid.Proofs.SmallLetters

/-!
# Proofs/WrittenProperties — what is written for a handler is read back

```
   index_handler              …, name, …        the name is listed
   index_handler.name.type    geohash           one property for each of eleven suffixes,
   index_handler.name.…       …                 in any order
```

The names of the properties are taken apart in small letters: whatever begins with the stem
`index_handler.name.` belongs to the handler.  The stem and each name are put into small letters by
themselves, so they agree unless the handler's name ends in a `Σ`: then the stem ends in `ς.` and
the names go on from `σ.`, no property belongs to the handler, and the first one is missing
(`ofProperties_table`).
-/

namespace ZGrid

/-! ## Names that begin with the stem -/

/-- What the names of a handler's properties begin with. -/
def stemText (handler : String) : String := s!"{indexHandler}.{handler}."

/-- The last parts of the names of a handler's properties. -/
def suffixes : List String := ["type", "sourcecolumns", "sourcecolumntypes", "datatype",
  "originlatitude", "minlongitude", "maxlongitude", "minlatitude", "maxlatitude", "gridsize",
  "conversionratio"]

/-- The properties of one handler: what declares it, and a text for each suffix. -/
def propertyTable (handler declared : String) (text : String → String) : Properties :=
  (indexHandler, declared) ::
    suffixes.map fun suffix => (s!"{indexHandler}.{handler}.{suffix}", text suffix)

namespace HandlerProperties

theorem rest?_eq_some_iff {start text rest : List Char} :
    rest? start text = some rest ↔ text = start ++ rest := by
  induction start generalizing text with
  | nil => simp [rest?, eq_comm]
  | cons c start ih =>
    cases text with
    | nil => simp [rest?]
    | cons d text =>
      rw [rest?]
      split
      · rename_i hc
        simp [ih, hc]
      · rename_i hc
        simp [Ne.symm hc]

theorem mem_values_iff {handler name value : String} {properties : Properties} :
    (name, value) ∈ (of handler properties).values ↔ ∃ entry ∈ properties,
      (Text.lowercase entry.1).toList = (of handler properties).stem.toList ++ name.toList
        ∧ Text.trim entry.2 = value := by
  rw [of]
  simp only [List.mem_filterMap, Option.map_eq_some_iff, rest?_eq_some_iff, Prod.mk.injEq]
  constructor
  · rintro ⟨entry, hentry, rest, hrest, rfl, hvalue⟩
    exact ⟨entry, hentry, by rw [hrest, String.toList_ofList], hvalue⟩
  · rintro ⟨entry, hentry, hrest, hvalue⟩
    exact ⟨entry, hentry, name.toList, hrest, String.ofList_toList, hvalue⟩

end HandlerProperties

theorem Properties.value?_eq_some {properties : Properties} {name value : String}
    (hmem : (name, value) ∈ properties)
    (hunique : ∀ entry ∈ properties, entry.1 = name → entry.2 = value) :
    properties.value? name = some value := by
  rw [value?]
  cases hfind : properties.find? (·.1 == name) with
  | none => exact absurd (List.find?_eq_none.mp hfind _ hmem) (by simp)
  | some entry =>
    have hname : entry.1 = name := by simpa using List.find?_some hfind
    exact congrArg some (hunique entry (List.mem_of_find?_eq_some hfind) hname)

theorem toList_stemText (handler : String) :
    (stemText handler).toList = "index_handler.".toList ++ (handler ++ ".").toList := by
  rw [← String.toList_append, ← String.append_assoc]
  rfl

theorem toList_key (handler suffix : String) :
    (s!"{indexHandler}.{handler}.{suffix}").toList = (stemText handler).toList ++ suffix.toList :=
  String.toList_append

/-- What all stems begin with is in small letters, and decides on nothing that follows. -/
theorem lowerFrom_start_append (rest : List Char) :
    Text.lowerFrom [] ("index_handler.".toList ++ rest)
      = "index_handler.".toList ++ Text.lowerFrom "index_handler.".toList.reverse rest := by
  rw [Text.lowerFrom_append_of_not_endsInSigma (by decide +kernel),
    Text.lowerFrom_of_isSmall (List.all_eq_true.mp (by decide +kernel))]

/-- The property that lists the handlers has a shorter name than any property of one of them. -/
theorem length_indexHandler_lt (rest : List Char) : (Text.lowercase indexHandler).toList.length
    < (Text.lowerFrom [] ("index_handler.".toList ++ rest)).length := by
  have hshort : (Text.lowercase indexHandler).toList.length < "index_handler.".toList.length := by
    decide +kernel
  rw [lowerFrom_start_append, List.length_append]
  omega

theorem not_prefix_indexHandler (handler : String) :
    ¬ (Text.lowercase (stemText handler)).toList <+: (Text.lowercase indexHandler).toList := by
  intro hprefix
  have hlength := hprefix.length_le
  rw [Text.lowercase, String.toList_ofList, toList_stemText] at hlength
  exact absurd hlength (length_indexHandler_lt _).not_ge

theorem isSmall_of_mem_suffixes {suffix : String} (hsuffix : suffix ∈ suffixes) :
    ∀ c ∈ suffix.toList, Text.isSmall c = true := by
  have hletters : ∀ suffix ∈ suffixes,
      (suffix.toList.all fun c => 97 ≤ c.toNat ∧ c.toNat < 123) = true := by
    decide +kernel
  intro c hc
  obtain ⟨hlow, hhigh⟩ := of_decide_eq_true (List.all_eq_true.mp (hletters suffix hsuffix) c hc)
  exact Text.isSmall_of_between hlow hhigh

theorem meetsCased_of_mem_suffixes : ∀ suffix ∈ suffixes,
    Text.meetsCased suffix.toList = true := by
  decide +kernel

/-- **The name of a property begins with the stem of its handler**, unless that ends in a `Σ`. -/
theorem lowercase_key_eq {handler suffix : String} (hsuffix : suffix ∈ suffixes)
    (h : Text.endsInSigma (stemText handler).toList = false) :
    (Text.lowercase s!"{indexHandler}.{handler}.{suffix}").toList
      = (Text.lowercase (stemText handler)).toList ++ suffix.toList := by
  rw [Text.lowercase, String.toList_ofList, toList_key, Text.lowercase, String.toList_ofList,
    Text.lowerFrom_append_of_not_endsInSigma h,
    Text.lowerFrom_of_isSmall (isSmall_of_mem_suffixes hsuffix)]

theorem not_prefix_key {handler suffix : String} (hsuffix : suffix ∈ suffixes)
    (h : Text.endsInSigma (stemText handler).toList = true) :
    ¬ (Text.lowercase (stemText handler)).toList
      <+: (Text.lowercase s!"{indexHandler}.{handler}.{suffix}").toList := by
  rw [Text.lowercase, String.toList_ofList, Text.lowercase, String.toList_ofList, toList_key]
  exact Text.not_prefix_of_endsInSigma h (meetsCased_of_mem_suffixes suffix hsuffix)

/-- The names for all suffixes have the same first part in small letters. -/
theorem lowercase_key_eq_append {handler suffix : String} (hsuffix : suffix ∈ suffixes) :
    (Text.lowercase s!"{indexHandler}.{handler}.{suffix}").toList
      = Text.lowerBetween [] (stemText handler).toList "type".toList ++ suffix.toList := by
  have hletter : Text.meetsCased suffix.toList = Text.meetsCased "type".toList :=
    (meetsCased_of_mem_suffixes suffix hsuffix).trans
      (meetsCased_of_mem_suffixes "type" (by decide)).symm
  rw [Text.lowercase, String.toList_ofList, toList_key, Text.lowerFrom_append,
    Text.lowerBetween_congr hletter, Text.lowerFrom_of_isSmall (isSmall_of_mem_suffixes hsuffix)]

/-- **The names of the properties differ in small letters**, whatever the handler's name is. -/
theorem nodup_lowercase_propertyTable (handler declared : String) (text : String → String) :
    ((propertyTable handler declared text).map fun entry => Text.lowercase entry.1).Nodup := by
  rw [propertyTable, List.map_cons, List.map_map, List.nodup_cons]
  refine ⟨fun hmem => ?_, List.Nodup.map_on (fun suffix hsuffix other hother heq => ?_) (by decide)⟩
  · obtain ⟨suffix, -, heq⟩ := List.mem_map.mp hmem
    have hkey := congrArg (·.toList.length) heq
    change (Text.lowercase s!"{indexHandler}.{handler}.{suffix}").toList.length = _ at hkey
    rw [Text.lowercase, String.toList_ofList, toList_key, toList_stemText,
      List.append_assoc] at hkey
    exact absurd hkey (length_indexHandler_lt _).ne'
  · have hkey : (Text.lowercase s!"{indexHandler}.{handler}.{suffix}").toList
        = (Text.lowercase s!"{indexHandler}.{handler}.{other}").toList := congrArg String.toList heq
    rw [lowercase_key_eq_append hsuffix, lowercase_key_eq_append hother] at hkey
    exact String.toList_inj.mp (List.append_cancel_left hkey)

/-! ## The values of a handler -/

namespace HandlerProperties

section Table

variable {handler declared : String} {text : String → String} {properties : Properties}
  (hperm : properties.Perm (propertyTable handler declared text))
include hperm

theorem mem_iff_of_perm {entry : String × String} : entry ∈ properties ↔
    entry = (indexHandler, declared) ∨ ∃ suffix ∈ suffixes,
      entry = (s!"{indexHandler}.{handler}.{suffix}", text suffix) := by
  rw [hperm.mem_iff, propertyTable, List.mem_cons, List.mem_map]
  simp only [eq_comm]

theorem value?_indexHandler : properties.value? indexHandler = some declared := by
  refine Properties.value?_eq_some ((mem_iff_of_perm hperm).mpr (.inl rfl))
    fun entry hentry hname => ?_
  obtain rfl | ⟨suffix, -, rfl⟩ := (mem_iff_of_perm hperm).mp hentry
  · rfl
  · -- The name of any other property is longer.
    have hlength := congrArg (·.toList.length) hname
    rw [toList_key, toList_stemText, List.length_append, List.length_append] at hlength
    have hlong : "index_handler.".toList.length = indexHandler.toList.length + 1 := by decide
    omega

theorem optional_of (h : Text.endsInSigma (stemText handler).toList = false) {suffix : String}
    (hsuffix : suffix ∈ suffixes) : (of handler properties).optional suffix
      = (some (Text.trim (text suffix))).filter (· ≠ "") := by
  rw [optional]
  congr 1
  refine Properties.value?_eq_some ?_ fun entry hentry hname => ?_
  · refine mem_values_iff.mpr
      ⟨_, (mem_iff_of_perm hperm).mpr (.inr ⟨suffix, hsuffix, rfl⟩), ?_, rfl⟩
    exact lowercase_key_eq hsuffix h
  · obtain ⟨name, value⟩ := entry
    obtain rfl : name = suffix := hname
    obtain ⟨entry, hmem, hkey, rfl⟩ := mem_values_iff.mp hentry
    obtain rfl | ⟨other, hother, rfl⟩ := (mem_iff_of_perm hperm).mp hmem
    · exact absurd ⟨_, hkey.symm⟩ (not_prefix_indexHandler handler)
    · rw [lowercase_key_eq hother h] at hkey
      rw [String.toList_inj.mp (List.append_cancel_left hkey)]

theorem required_of (h : Text.endsInSigma (stemText handler).toList = false) {suffix : String}
    (hsuffix : suffix ∈ suffixes) (htrim : Text.trim (text suffix) = text suffix)
    (hne : text suffix ≠ "") : (of handler properties).required suffix = .ok (text suffix) := by
  rw [required, optional_of hperm h hsuffix, htrim, Option.filter_some, decide_eq_true hne]
  rfl

/-- No property belongs to a handler whose stem ends in a `Σ`. -/
theorem values_eq_nil (h : Text.endsInSigma (stemText handler).toList = true) :
    (of handler properties).values = [] := by
  refine List.eq_nil_iff_forall_not_mem.mpr fun entry hentry => ?_
  obtain ⟨entry, hmem, hkey, -⟩ := mem_values_iff.mp hentry
  obtain rfl | ⟨suffix, hsuffix, rfl⟩ := (mem_iff_of_perm hperm).mp hmem
  · exact not_prefix_indexHandler handler ⟨_, hkey.symm⟩
  · exact not_prefix_key hsuffix h ⟨_, hkey.symm⟩

end Table

end HandlerProperties

/-! ## Texts of a configuration -/

/-- A text that lists some entries, none of which has blanks around it or a comma in it. -/
structure Lists (text : String) (entries : List String) : Prop where
  /-- The entries are joined by commas. -/
  joined : text = ",".intercalate entries
  /-- There is something to list. -/
  ne_empty : text ≠ ""
  /-- The entries are what is read back. -/
  clean : ∀ entry ∈ entries, Text.trim entry = entry ∧ ',' ∉ entry.toList

theorem Lists.trim_eq {text : String} {entries : List String} (h : Lists text entries) :
    Text.trim text = text := by
  have htrimmed : Text.Trimmed text.toList := by
    rw [h.joined, String.toList_intercalate]
    refine Text.Trimmed.intercalate (by decide) fun entry hentry => ?_
    obtain ⟨entry, hmem, rfl⟩ := List.mem_map.mp hentry
    refine Text.trimmed_of_trimChars_eq ?_
    rw [← Text.toList_trim, (h.clean entry hmem).1]
  rw [Text.trim, htrimmed.trimChars_eq, String.ofList_toList]

theorem Lists.entries_eq {text : String} {entries : List String} (h : Lists text entries) :
    (Text.fields ',' text).map Text.trim = entries := by
  have hne : entries ≠ [] := by
    rintro rfl
    exact h.ne_empty h.joined
  have hfields : Text.fields ',' text = entries := by
    rw [h.joined]
    exact Text.fields_intercalate (fun entry hentry => (h.clean entry hentry).2) hne
  rw [hfields]
  exact (List.map_congr_left fun entry hmem => (h.clean entry hmem).1).trans (List.map_id entries)

namespace HandlerProperties

section Table

variable {handler declared : String} {text : String → String} {properties : Properties}
  {suffix : String} (hperm : properties.Perm (propertyTable handler declared text))
  (h : Text.endsInSigma (stemText handler).toList = false) (hsuffix : suffix ∈ suffixes)
include hperm h hsuffix

theorem required_of_solid (hsolid : ∀ c ∈ (text suffix).toList, Solid c)
    (hne : (text suffix).toList ≠ []) :
    (of handler properties).required suffix = .ok (text suffix) := by
  refine required_of hperm h hsuffix ?_ (by simpa using hne)
  rw [Text.trim, trimChars_eq_of_solid hsolid, String.ofList_toList]

theorem number_of {x : Float} (hx : Number.float? (text suffix).toList = some x) :
    (of handler properties).number suffix = .ok x := by
  have hne : (text suffix).toList ≠ [] := by
    intro hnil
    rw [hnil, show Number.float? [] = none by decide] at hx
    cases hx
  rw [number, required_of_solid hperm h hsuffix (Number.solid_of_float? hx) hne]
  dsimp only [bind, Except.bind]
  rw [hx]
  rfl

theorem integer_of {n : Int64} (hn : Number.int64? (text suffix).toList = some n) :
    (of handler properties).integer suffix = .ok n := by
  have hne : (text suffix).toList ≠ [] := by
    intro hnil
    rw [hnil, show Number.int64? [] = none by decide] at hn
    cases hn
  rw [integer, required_of_solid hperm h hsuffix (Number.solid_of_int64? hn) hne]
  dsimp only [bind, Except.bind]
  rw [hn]
  rfl

theorem names_of {entries : List String} (hlists : Lists (text suffix) entries) :
    (of handler properties).names suffix = .ok entries := by
  rw [names, required_of hperm h hsuffix hlists.trim_eq hlists.ne_empty]
  exact congrArg Except.ok hlists.entries_eq

end Table

end HandlerProperties

namespace Config

/-- Texts for the suffixes that give a configuration. -/
structure Spelled (text : String → String) (config : Config) : Prop where
  /-- The type is that of grids. -/
  type : text "type" = gridType
  /-- The columns are listed. -/
  sourceColumns : Lists (text "sourcecolumns") config.sourceColumns
  /-- Their types are listed. -/
  sourceColumnTypes : Lists (text "sourcecolumntypes") config.sourceColumnTypes
  /-- The type of the index column is given, -/
  dataType : text "datatype" = config.dataType
  /-- without blanks around it, -/
  dataType_trim : Text.trim config.dataType = config.dataType
  /-- and not left out. -/
  dataType_ne_empty : config.dataType ≠ ""
  /-- The texts of the floats are read as the floats. -/
  parameters : ∀ parameter ∈ config.parameters,
    Number.float? (text parameter.1).toList = some parameter.2
  /-- The text of the scale is read as the scale. -/
  conversionRatio : Number.int64? (text "conversionratio").toList = some config.conversionRatio

section Table

variable {handler declared : String} {text : String → String} {config : Config}
  {properties : Properties} (hperm : properties.Perm (propertyTable handler declared text))
include hperm

theorem read_of_spelled (hspelled : Spelled text config)
    (h : Text.endsInSigma (stemText handler).toList = false) :
    read (HandlerProperties.of handler properties) = .ok config := by
  have htype : (HandlerProperties.of handler properties).required "type" = .ok gridType :=
    hspelled.type ▸ HandlerProperties.required_of hperm h (by decide)
      (by rw [hspelled.type]; decide) (by rw [hspelled.type]; decide)
  have hdataType : (HandlerProperties.of handler properties).optional "datatype"
      = some config.dataType := by
    rw [HandlerProperties.optional_of hperm h (by decide), hspelled.dataType,
      hspelled.dataType_trim, Option.filter_some, decide_eq_true hspelled.dataType_ne_empty]
    rfl
  have hnumber : ∀ parameter ∈ config.parameters,
      (HandlerProperties.of handler properties).number parameter.1 = .ok parameter.2 := by
    intro parameter hmem
    refine HandlerProperties.number_of hperm h ?_ (hspelled.parameters parameter hmem)
    have hsuffixes : ∀ name ∈ config.parameters.map Prod.fst, name ∈ suffixes := by
      change ∀ name ∈ ["originlatitude", "minlongitude", "maxlongitude", "minlatitude",
        "maxlatitude", "gridsize"], name ∈ suffixes
      decide
    exact hsuffixes _ (List.mem_map_of_mem hmem)
  rw [parameters, List.forall_mem_cons, List.forall_mem_cons, List.forall_mem_cons,
    List.forall_mem_cons, List.forall_mem_cons, List.forall_mem_singleton] at hnumber
  obtain ⟨h₁, h₂, h₃, h₄, h₅, h₆⟩ := hnumber
  rw [read, htype, HandlerProperties.names_of hperm h (by decide) hspelled.sourceColumns,
    HandlerProperties.names_of hperm h (by decide) hspelled.sourceColumnTypes, h₁, h₂, h₃, h₄, h₅,
    h₆, HandlerProperties.integer_of hperm h (by decide) hspelled.conversionRatio, hdataType]
  rfl

theorem read_of_endsInSigma (h : Text.endsInSigma (stemText handler).toList = true) :
    read (HandlerProperties.of handler properties)
      = .error (.config (.absent (Text.lowercase (stemText handler) ++ "type"))) := by
  have htype : (HandlerProperties.of handler properties).required "type"
      = .error (.config (.absent (Text.lowercase (stemText handler) ++ "type"))) := by
    rw [HandlerProperties.required, HandlerProperties.optional,
      HandlerProperties.values_eq_nil hperm h]
    rfl
  rw [read, htype]
  rfl

theorem checkDeclared_of_listed {name : String} (hne : name ≠ "")
    (hlisted : name ∈ (Text.fields ',' declared).map Text.trim) :
    checkDeclared name properties = .ok () := by
  rw [← Text.map_trim_fields_trim (by decide)] at hlisted
  obtain ⟨field, hfield, htrim⟩ := List.mem_map.mp hlisted
  have hdeclared : Text.trim declared ≠ "" := by
    intro hempty
    rw [hempty] at hfield
    obtain rfl := List.mem_singleton.mp hfield
    exact hne htrim.symm
  rw [checkDeclared, HandlerProperties.value?_indexHandler hperm]
  change (if Text.trim declared = "" then _ else _) = _
  rw [if_neg hdeclared, if_pos]
  exact List.any_eq_true.mpr ⟨field, hfield, by rw [htrim, beq_self_eq_true]⟩

theorem ofProperties_of_spelled (hne : handler ≠ "")
    (hlisted : handler ∈ (Text.fields ',' declared).map Text.trim)
    (hspelled : Spelled text config) (h : Text.endsInSigma (stemText handler).toList = false) :
    ofProperties handler properties = config.validate.map fun _ => config := by
  rw [ofProperties, checkDeclared_of_listed hperm hne hlisted, read_of_spelled hperm hspelled h]
  change (config.validate >>= fun _ => pure config) = _
  cases config.validate <;> rfl

theorem ofProperties_of_endsInSigma (hne : handler ≠ "")
    (hlisted : handler ∈ (Text.fields ',' declared).map Text.trim)
    (h : Text.endsInSigma (stemText handler).toList = true) :
    ofProperties handler properties
      = .error (.config (.absent (Text.lowercase (stemText handler) ++ "type"))) := by
  rw [ofProperties, checkDeclared_of_listed hperm hne hlisted, read_of_endsInSigma hperm h]
  rfl

/-- **What is written for a handler is read back.**  The properties of a table that spell a
configuration give it if it has no fault, and its first fault otherwise; but if the name of the
handler ends in a `Σ`, they give nothing. -/
theorem ofProperties_table (hne : handler ≠ "")
    (hlisted : handler ∈ (Text.fields ',' declared).map Text.trim)
    (hspelled : Spelled text config) :
    ofProperties handler properties =
      if Text.endsInSigma (stemText handler).toList then
        .error (.config (.absent (Text.lowercase (stemText handler) ++ "type")))
      else config.validate.map fun _ => config := by
  cases h : Text.endsInSigma (stemText handler).toList with
  | true => exact ofProperties_of_endsInSigma hperm hne hlisted h
  | false => exact ofProperties_of_spelled hperm hne hlisted hspelled h

end Table

/-- Cells of 50 meters around a city. -/
def city : Config where
  originLatitude := 39.832277
  minLongitude := 115.811865
  maxLongitude := 116.782233
  minLatitude := 39.832277
  maxLatitude := 40.225281
  gridSize := 50
  conversionRatio := 1000000

/-- The texts of these parameters. -/
def cityText : String → String
  | "type" => "geohash"
  | "sourcecolumns" => "longitude,latitude"
  | "sourcecolumntypes" => "bigint,bigint"
  | "datatype" => "long"
  | "originlatitude" => "39.832277"
  | "minlongitude" => "115.811865"
  | "maxlongitude" => "116.782233"
  | "minlatitude" => "39.832277"
  | "maxlatitude" => "40.225281"
  | "gridsize" => "50"
  | _ => "1000000"

theorem spelled_cityText : Spelled cityText city where
  type := rfl
  sourceColumns := ⟨by decide +kernel, by decide, by decide +kernel⟩
  sourceColumnTypes := ⟨by decide +kernel, by decide, by decide +kernel⟩
  dataType := rfl
  dataType_trim := by decide +kernel
  dataType_ne_empty := by decide
  parameters := by decide +kernel
  conversionRatio := by decide +kernel

theorem validate_city : city.validate = .ok () := by
  have hfault : city.fault?.isNone = true := by decide +kernel
  rw [validate, Option.isNone_iff_eq_none.mp hfault]

theorem ofProperties_city : "mygrid" ≠ ""
    ∧ "mygrid" ∈ (Text.fields ',' "other , mygrid").map Text.trim
    ∧ Spelled cityText city
    ∧ ofProperties "mygrid" (propertyTable "mygrid" "other , mygrid" cityText).reverse
      = .ok city := by
  have hlisted : "mygrid" ∈ (Text.fields ',' "other , mygrid").map Text.trim := by decide +kernel
  refine ⟨by decide, hlisted, spelled_cityText, ?_⟩
  rw [ofProperties_table (List.reverse_perm _) (by decide) hlisted spelled_cityText,
    if_neg (by decide +kernel), validate_city]
  rfl

/-- **A name that ends in a `Σ` is not read back**, though its properties are written for it and
spell a configuration without fault. -/
theorem ofProperties_sigma :
    "Σ" ∈ (Text.fields ',' "Σ").map Text.trim
      ∧ ((propertyTable "Σ" "Σ" cityText).map (Text.lowercase ·.1)).Nodup
      ∧ Spelled cityText city ∧ city.validate = .ok ()
      ∧ ofProperties "Σ" (propertyTable "Σ" "Σ" cityText)
        = .error (.config (.absent "index_handler.ς.type")) := by
  have hlisted : "Σ" ∈ (Text.fields ',' "Σ").map Text.trim := by decide +kernel
  refine ⟨hlisted, nodup_lowercase_propertyTable .., spelled_cityText, validate_city, ?_⟩
  rw [ofProperties_of_endsInSigma (.refl _) (by decide) hlisted (by decide +kernel),
    show Text.lowercase (stemText "Σ") ++ "type" = "index_handler.ς.type" by decide +kernel]

end Config

end ZGrid
