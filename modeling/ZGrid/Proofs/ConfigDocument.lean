import ZGrid.Config.Document
import ZGrid.Proofs.CheckedConfig
import ZGrid.Proofs.ShortestRead
import ZGrid.Proofs.WrittenRead

/-!
# Proofs/ConfigDocument — configurations by their documents

```
   config ──toDocument──▸ {⏎  "origin_latitude": 39.0,⏎  …⏎} ──reader──▸ config ──validate──▸
```

An indented text is read as a compact one is: the new lines between its pieces are blanks
(`takes_block`).  Every member of a configuration is read as it was written, a string with whatever
characters and a float to its last digit, so what is read is the configuration, and what comes of
its document is what comes of its validation (`ofDocument_toDocument_of_validate`).
-/

namespace ZGrid

/-! ## Indented texts -/

namespace Json

theorem indentedItems_eq_map (level : Nat) (items : List Json) :
    indentedItems level items = items.map (indented level) := by
  induction items with
  | nil => rfl
  | cons item items ih => rw [indentedItems, ih, List.map_cons]

theorem block_of_ne_nil (level : Nat) (opening closing : Char) {texts : List (List Char)}
    (hne : texts ≠ []) : block level opening closing texts = opening :: (newLine (level + 1)
      ++ (join (',' :: newLine (level + 1)) texts ++ (newLine level ++ [closing]))) := by
  obtain ⟨text, more, rfl⟩ := List.exists_cons_of_ne_nil hne
  simp only [block, List.append_assoc]

namespace Reader

theorem blanks_newLine (level : Nat) : Blanks (newLine level) := by
  intro c hc
  rw [newLine, List.mem_cons, List.mem_replicate] at hc
  obtain rfl | ⟨-, rfl⟩ := hc <;> decide

/-- **A list is read with an item a line.** -/
theorem takes_block {α : Type} {item : Reader α} {texts : List (List Char)} {values : List α}
    (h : List.Forall₂ (Takes item) texts values) (level : Nat) :
    Takes (list item) (block level '[' ']' texts) values := by
  by_cases hne : texts = []
  · subst hne
    exact takes_list h blanks_nil blanks_nil blanks_nil
  · rw [block_of_ne_nil level '[' ']' hne]
    exact takes_list h (blanks_newLine _) (blanks_newLine _) (blanks_newLine _)

theorem takes_string (text : String) : Takes string (quote text) text where
  begins := ⟨'"', _, rfl, by decide, by decide⟩
  reads := fun _ hblanks _ => string_quote text hblanks _ _

theorem takes_ofStrings (texts : List String) (level : Nat) :
    Takes (list string) ((ofStrings texts).indented level) texts := by
  have hitems : List.Forall₂ (Takes string)
      (indentedItems (level + 1) (texts.map Json.string)) texts := by
    rw [indentedItems_eq_map, List.map_map, List.forall₂_map_left_iff]
    exact List.forall₂_same.mpr fun text _ => takes_string text
  rw [ofStrings, indented]
  exact takes_block hitems level

/-- **A finite float is read as it was written.** -/
theorem takes_ofFloat {x : Float} (hx : Float64.isFinite x = true) (level : Nat) :
    Takes float ((ofFloat x).indented level) x := by
  obtain ⟨n, hn⟩ : ∃ n, Style.document.numeral? x = some n := by
    obtain ⟨negative, mantissa, exponent, hvalue⟩ := Float64.exists_ofFloat_eq hx
    rw [Style.numeral?, hvalue]
    exact ⟨_, rfl⟩
  have htext : (ofFloat x).indented level = n.toChars Style.document.plus := by
    rw [ofFloat, hn]
    rfl
  rw [htext]
  refine ⟨?_, fun _ hblanks hrest => ?_⟩
  · exact exists_toChars_eq (p := fun c => isBlank c = false ∧ c ≠ ']') (by decide) (by decide) _ n
  · rw [float, bind_of_ok (numeral_toChars _ n hblanks hrest.endsNumber _),
      Style.toFloat_of_numeral? hn, if_pos hx]
    rfl

end Reader

/-- **A record is read with a member a line.** -/
theorem Record.takes_block {σ : Type} {record : Record σ} (hnodup : record.names.Nodup)
    (hne : record.members ≠ []) {texts : List (List Char)} {start stop : σ}
    (h : Fills record.members texts start stop) (level : Nat) : Reader.Takes (record.reader start)
      (block level '{' '}' (List.zipWith (memberText [' ']) record.members texts)) stop := by
  have hmembers : List.zipWith (memberText [' ']) record.members texts ≠ [] := by
    have hlength := h.length_eq
    have hpos := List.length_pos_iff.mpr hne
    rw [← List.length_pos_iff, List.length_zipWith]
    omega
  have hgap : Reader.Blanks [' '] := List.forall_mem_singleton.mpr rfl
  rw [block_of_ne_nil level '{' '}' hmembers]
  exact takes_record hnodup hne h hgap (Reader.blanks_newLine _) (Reader.blanks_newLine _)
    (Reader.blanks_newLine _)

end Json

/-! ## Configurations -/

namespace Config

open Json Json.Reader Json.Record

theorem takes_readInt64 (value : Int64) (level : Nat) :
    Takes readInt64 ((ofInt value.toInt).indented level) value := by
  have hleast : Int64.minValue.toInt ≤ value.toInt := value.minValue_le_toInt
  have h := (takes_integer hleast value.toInt_le).map Int64.ofInt
  rw [Int64.ofInt_toInt] at h
  exact h

/-- **A configuration is read as it was written**, usable or not. -/
theorem takes_toJson {config : Config}
    (hfinite : ∀ entry ∈ config.parameters, Float64.isFinite entry.2 = true) :
    Takes (record.reader blank) (config.toJson.indented 0) config := by
  have hfloats : ∀ entry ∈ config.parameters,
      Takes Reader.float ((ofFloat entry.2).indented 1) entry.2 :=
    fun entry hentry => takes_ofFloat (hfinite entry hentry) 1
  simp only [parameters, List.forall_mem_cons] at hfloats
  obtain ⟨horigin, hwest, heast, hsouth, hnorth, hsize, -⟩ := hfloats
  have hfills : Fills record.members _ blank config :=
    .cons (horigin.map _) <| .cons (hwest.map _) <| .cons (heast.map _) <|
    .cons (hsouth.map _) <| .cons (hnorth.map _) <| .cons (hsize.map _) <|
    .cons ((takes_readInt64 config.conversionRatio 1).map _) <|
    .cons ((takes_ofStrings config.sourceColumns 1).map _) <|
    .cons ((takes_ofStrings config.sourceColumnTypes 1).map _) <|
    .cons ((takes_string config.dataType).map _) <| .nil _
  exact Record.takes_block (by decide) (by simp [record]) hfills 0

theorem ofDocument_toDocument_of_finite {config : Config}
    (hfinite : ∀ entry ∈ config.parameters, Float64.isFinite entry.2 = true) :
    ofDocument config.toDocument = (do config.validate; return config) := by
  have htakes : Takes (record.reader blank) config.toDocument.toList config := by
    rw [toDocument, indentedText, String.toList_ofList]
    exact takes_toJson hfinite
  rw [ofDocument, htakes.document]

/-- **A configuration without faults is read back from its own document**, and of any other one
whose numbers can be written, the document is refused for the fault of the configuration. -/
theorem ofDocument_toDocument_of_validate (config : Config) :
    (config.validate = .ok () → ofDocument config.toDocument = .ok config)
      ∧ ∀ error, (∀ entry ∈ config.parameters, Float64.isFinite entry.2 = true) →
        config.validate = .error error → ofDocument config.toDocument = .error error := by
  refine ⟨fun hvalid => ?_, fun error hfinite hfault => ?_⟩
  · rw [ofDocument_toDocument_of_finite (checked_of_validate hvalid).isFinite, hvalid]
    rfl
  · rw [ofDocument_toDocument_of_finite hfinite, hfault]
    rfl

/-- A configuration whose names need escapes. -/
def quoted : Config where
  originLatitude := -0.0
  minLongitude := -73.98765432109876
  maxLongitude := 1e-7
  minLatitude := -5e-324
  maxLatitude := 0.1
  gridSize := 1e300
  conversionRatio := 9223372036854775807
  sourceColumns := ["\"x\\y\"\n\x01", "𝔸é"]
  sourceColumnTypes := ["BigInt", "BIGINT"]
  dataType := "Long"

theorem ofDocument_toDocument_quoted : quoted.validate = .ok ()
    ∧ ofDocument quoted.toDocument = .ok quoted
    ∧ ofDocument { quoted with sourceColumns := [] }.toDocument
      = .error (.config (.columnCount 0)) := by
  have hfault : quoted.fault?.isNone = true := by decide +kernel
  have hvalid : quoted.validate = .ok () := by rw [validate, Option.isNone_iff_eq_none.mp hfault]
  refine ⟨hvalid, (ofDocument_toDocument_of_validate quoted).1 hvalid, ?_⟩
  exact (ofDocument_toDocument_of_validate { quoted with sourceColumns := [] }).2 _
    (by decide +kernel) rfl

end Config

end ZGrid
