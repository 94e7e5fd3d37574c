import ZGrid.GridIndex
import ZGrid.Proofs.GlobeVertices
import ZGrid.Proofs.TrimmedFields

/-!
# Proofs/QueryForms — one polygon, however it is asked for

```
   vertices  ───────────────────────────────────────────┐
   "lon,lat;lon,lat;…"  ──read──▸  vertices  ──checked──┼─▸  checked  ─▸  polygon  ─▸  ranges
   {"type":"Polygon",…} ──read──▸  vertices  ──checked──┘
```

The text and the document are checked once more than the vertices themselves.  A check that fails
names the first bad vertex by its place in the list, so it fails alike wherever it stands, and one
that succeeds is not heard of.  A ring that is left open is closed by its first vertex, which is
no new point: giving that vertex twice changes nothing.
-/

namespace ZGrid

namespace Query

/-! ## Vertices in a text -/

/-- A text between a longitude and a latitude, blanks around each of them not counting. -/
def SpellsVertex (piece : List Char × List Char) (vertex : Point Float) : Prop :=
  Number.float? (Text.trimChars piece.1) = some vertex.x ∧
    Number.float? (Text.trimChars piece.2) = some vertex.y

/-- The text of the longitude, a comma and the text of the latitude. -/
def pieceText (piece : List Char × List Char) : List Char := piece.1 ++ ',' :: piece.2

/-- A text that gives some vertices, pair by pair. -/
def Spells (text : List Char) (vertices : List (Point Float)) : Prop :=
  ∃ pieces : List (List Char × List Char), List.Forall₂ SpellsVertex pieces vertices ∧
    text = [';'].intercalate (pieces.map pieceText)

theorem not_mem_of_float? {text : List Char} {x : Float}
    (h : Number.float? (Text.trimChars text) = some x) : ',' ∉ text ∧ ';' ∉ text := by
  have hsolid := Number.solid_of_float? h
  constructor
  · intro hc
    by_cases hmem : ',' ∈ Text.trimChars text
    · exact (hsolid _ hmem).2.1 rfl
    · exact absurd (Text.isBlank_of_not_mem_trimChars hc hmem) (by decide)
  · intro hc
    by_cases hmem : ';' ∈ Text.trimChars text
    · exact (hsolid _ hmem).2.2 rfl
    · exact absurd (Text.isBlank_of_not_mem_trimChars hc hmem) (by decide)

variable {piece : List Char × List Char} {vertex : Point Float}
  {pieces : List (List Char × List Char)} {vertices : List (Point Float)}

theorem SpellsVertex.semicolon_not_mem (h : SpellsVertex piece vertex) : ';' ∉ pieceText piece := by
  rw [pieceText, List.mem_append, List.mem_cons]
  rintro (hc | hc | hc)
  · exact (not_mem_of_float? h.1).2 hc
  · exact absurd hc (by decide)
  · exact (not_mem_of_float? h.2).2 hc

theorem SpellsVertex.readVertex_eq (h : SpellsVertex piece vertex) (index : Nat) :
    readVertex index (Text.trimChars (pieceText piece)) = .ok vertex := by
  have hfields : Text.fieldChars ',' (pieceText piece) = [piece.1, piece.2] := by
    have hpiece : pieceText piece = [','].intercalate [piece.1, piece.2] := by
      rw [List.intercalate_cons_cons, List.intercalate_singleton, List.append_assoc]
      rfl
    rw [hpiece]
    refine Text.fieldChars_intercalate (List.forall_mem_cons.mpr ⟨?_, ?_⟩) (List.cons_ne_nil _ _)
    · exact (not_mem_of_float? h.1).1
    · exact List.forall_mem_singleton.mpr (not_mem_of_float? h.2).1
  rw [readVertex, Text.map_trimChars_fieldChars_trimChars (by decide), hfields]
  simp only [List.map_cons, List.map_nil, readNumber, h.1, h.2]
  rfl

theorem trimChars_pieceText_ne_nil (piece : List Char × List Char) :
    Text.trimChars (pieceText piece) ≠ [] := by
  intro hnil
  have hcomma : ',' ∈ pieceText piece := by simp [pieceText]
  have hblank := Text.isBlank_of_not_mem_trimChars hcomma (by simp [hnil])
  exact absurd hblank (by decide)

theorem segments_intercalate (h : List.Forall₂ SpellsVertex pieces vertices) :
    segments ([';'].intercalate (pieces.map pieceText))
      = pieces.map fun piece => Text.trimChars (pieceText piece) := by
  cases pieces with
  | nil => rfl
  | cons piece pieces =>
    rw [segments, Text.fieldChars_intercalate ?_ (by simp), List.map_map]
    · refine List.filter_eq_self.mpr fun segment hsegment => ?_
      obtain ⟨piece, -, rfl⟩ := List.mem_map.mp hsegment
      exact decide_eq_true (trimChars_pieceText_ne_nil piece)
    · intro entry hentry
      obtain ⟨piece, hpiece, rfl⟩ := List.mem_map.mp hentry
      obtain ⟨i, hi, rfl⟩ := List.getElem_of_mem hpiece
      exact (List.Forall₂.get h hi (h.length_eq ▸ hi)).semicolon_not_mem

theorem readVertices_pieces (h : List.Forall₂ SpellsVertex pieces vertices) (index : Nat) :
    readVertices index (pieces.map fun piece => Text.trimChars (pieceText piece))
      = .ok vertices := by
  induction h generalizing index with
  | nil => rfl
  | cons hpiece _ ih =>
    rw [List.map_cons, readVertices, hpiece.readVertex_eq, ih]
    rfl

/-- **A text is read as the vertices it spells.** -/
theorem ofText_of_spells {text : String} (h : Spells text.toList vertices) :
    ofText text = (checkVertices vertices).map fun _ => vertices := by
  obtain ⟨pieces, hpieces, htext⟩ := h
  rw [ofText, htext, segments_intercalate hpieces, readVertices_pieces hpieces]
  change (checkVertices vertices >>= fun _ => pure vertices) = _
  cases checkVertices vertices <;> rfl

/-! ## Vertices once more -/

theorem vertexFault?_append (index : Nat) (front back : List (Point Float)) :
    vertexFault? index (front ++ back)
      = (vertexFault? index front).or (vertexFault? (index + front.length) back) := by
  induction front generalizing index with
  | nil => rfl
  | cons vertex front ih =>
    rw [List.cons_append, vertexFault?, vertexFault?]
    cases vertex.fault? with
    | some fault => rfl
    | none =>
      dsimp only
      rw [ih, List.length_cons, Nat.add_right_comm, Nat.add_assoc]

/-- A vertex that is given twice is checked as the first time. -/
theorem checkVertices_concat (henough : 3 ≤ vertices.length) (hmem : vertex ∈ vertices) :
    checkVertices (vertices ++ [vertex]) = checkVertices vertices := by
  have hfault : vertexFault? 0 (vertices ++ [vertex]) = vertexFault? 0 vertices := by
    rw [vertexFault?_append]
    cases hfault : vertexFault? 0 vertices with
    | some fault => rfl
    | none => simp [vertexFault?, (vertexFault?_eq_none_iff.mp hfault vertex hmem).fault?_eq]
  rw [checkVertices, checkVertices, if_neg (by simp; omega), if_neg (by omega), hfault]

end Query

/-! ## Vertices in a document -/

namespace GeoJson

/-- A list of numbers that begins with the coordinates of a point. -/
def IsPosition (value : Json) (point : Point Float) : Prop :=
  ∃ (x y : Numeral) (rest : List Numeral),
    value = .list (.number x :: .number y :: rest.map .number) ∧ x.toFloat = point.x ∧
      y.toFloat = point.y

/-- The members of a polygon with one ring. -/
structure IsRing (members : List (String × Json)) (ring : List (Point Float)) : Prop where
  /-- The object says that it is a polygon. -/
  kind : Json.find? members "type" = some (.string "Polygon")
  /-- Its bounding box is one. -/
  bounds : hasBounds members = true
  /-- Its coordinates are one list of positions. -/
  coordinates : ∃ positions : List Json, List.Forall₂ IsPosition positions ring ∧
    Json.find? members "coordinates" = some (.list [.list positions])

/-- The members of a feature around such a polygon. -/
structure IsFeature (members : List (String × Json)) (ring : List (Point Float)) : Prop where
  /-- The object says that it is a feature. -/
  kind : Json.find? members "type" = some (.string "Feature")
  /-- Its bounding box is one. -/
  bounds : hasBounds members = true
  /-- Its properties are some. -/
  properties : hasProperties members = true
  /-- Its name is one. -/
  name : hasName members = true
  /-- Its geometry is the polygon. -/
  geometry : ∃ polygon : List (String × Json), IsRing polygon ring ∧
    Json.find? members "geometry" = some (.object polygon)

variable {members : List (String × Json)} {ring : List (Point Float)}

theorem mapM_of_forall₂ {α β : Type} {f : α → Option β} {values : List α} {results : List β}
    (h : List.Forall₂ (fun value result => f value = some result) values results) :
    values.mapM f = some results := by
  induction h with
  | nil => rfl
  | cons hvalue _ ih => rw [List.mapM_cons, hvalue, ih]; rfl

theorem number?_rest (rest : List Numeral) :
    (rest.map Json.number).mapM number? = some (rest.map Numeral.toFloat) :=
  mapM_of_forall₂ (by simp [List.forall₂_map_left_iff, List.forall₂_map_right_iff, number?])

theorem IsPosition.position?_eq {value : Json} {point : Point Float} (h : IsPosition value point) :
    position? value = some point := by
  obtain ⟨x, y, rest, rfl, hx, hy⟩ := h
  have hnumbers : list? number? (.list (.number x :: .number y :: rest.map .number))
      = some (x.toFloat :: y.toFloat :: rest.map Numeral.toFloat) := number?_rest (x :: y :: rest)
  rw [position?, hnumbers]
  simp [hx, hy]

theorem mapM_position? {positions : List Json} (h : List.Forall₂ IsPosition positions ring) :
    positions.mapM position? = some ring :=
  mapM_of_forall₂ (h.imp fun _ _ => IsPosition.position?_eq)

theorem IsRing.readGeometry_eq (h : IsRing members ring) (depth : Nat) :
    readGeometry (depth + 1) (.object members) = some (.polygon [ring]) := by
  obtain ⟨positions, hpositions, hcoordinates⟩ := h.coordinates
  have hrings : list? (list? position?) (.list [.list positions]) = some [ring] := by
    change List.mapM (list? position?) [.list positions] = _
    rw [List.mapM_cons]
    change (positions.mapM position? >>= _) = _
    rw [mapM_position? hpositions]
    rfl
  rw [readGeometry, h.bounds, kind?, h.kind, hcoordinates]
  change (list? (list? position?) _).map Geometry.polygon = _
  rw [hrings]
  rfl

theorem IsRing.readDocument_eq (h : IsRing members ring) :
    readDocument (.object members) = some (.geometry (.polygon [ring])) := by
  have hkind : kind? members = some "Polygon" := by rw [kind?, h.kind]
  rw [readDocument, hkind]
  change (readGeometry 128 (.object members)).map Document.geometry = _
  rw [h.readGeometry_eq 127]
  rfl

theorem IsFeature.readDocument_eq (h : IsFeature members ring) :
    readDocument (.object members) = some (.feature (some (.polygon [ring]))) := by
  obtain ⟨polygon, hpolygon, hgeometry⟩ := h.geometry
  have hkind : kind? members = some "Feature" := by rw [kind?, h.kind]
  have hfeature : readFeature (.object members) = some (some (.polygon [ring])) := by
    rw [readFeature, hkind, h.bounds, h.properties, h.name, hgeometry]
    change (readGeometry 128 (.object polygon) >>= _) = _
    rw [hpolygon.readGeometry_eq 127]
    rfl
  rw [readDocument, hkind]
  change (readFeature (.object members)).map Document.feature = _
  rw [hfeature]
  rfl

/-- **A document is read as the ring it holds**, with or without a feature around it. -/
theorem verticesOfText_of_ring {text : String} (htext : Json.ofText? text = .ok (.object members))
    (h : IsRing members ring ∨ IsFeature members ring) :
    verticesOfText text = (Query.checkVertices ring).map fun _ => ring := by
  have houtline : ∃ document, readDocument (.object members) = some document
      ∧ vertices document = outline (.polygon [ring]) := by
    rcases h with h | h
    · exact ⟨_, h.readDocument_eq, rfl⟩
    · exact ⟨_, h.readDocument_eq, rfl⟩
  obtain ⟨document, hread, hvertices⟩ := houtline
  have hdocument : ofText text = .ok document := by rw [ofText, htext]; simp only [hread]
  rw [verticesOfText, hdocument]
  change vertices document = _
  rw [hvertices, outline]
  cases Query.checkVertices ring <;> rfl

end GeoJson

/-! ## Closing a ring -/

theorem Point.same_self {point : Point Float} (hx : Float64.isFinite point.x = true)
    (hy : Float64.isFinite point.y = true) : point.same point = true := by
  rw [Point.same, (Float64.beq_iff_exact_eq hx hx).mpr rfl,
    (Float64.beq_iff_exact_eq hy hy).mpr rfl]
  rfl

namespace Polygon

variable {points vertices : List (Point Float)} {point other : Point Float}

theorem addDistinct_eq_self_iff :
    addDistinct points point = points ↔ 3 ≤ points.length ∨ points.any point.same = true := by
  rw [addDistinct]
  split
  · rename_i h
    rw [Bool.and_eq_true, decide_eq_true_iff, Bool.not_eq_true'] at h
    simp [h.2]
    omega
  · rename_i h
    rw [Bool.and_eq_true, decide_eq_true_iff, Bool.not_eq_true', not_and_or] at h
    simpa using h

/-- A point that changes nothing will not change anything later. -/
theorem addDistinct_settled (h : addDistinct points point = points) :
    addDistinct (addDistinct points other) point = addDistinct points other := by
  rw [addDistinct_eq_self_iff] at h ⊢
  rw [addDistinct]
  split
  · rcases h with h | h
    · exact .inl (h.trans (Nat.le_succ _))
    · exact .inr (by rw [List.any_cons, h, Bool.or_true])
  · exact h

theorem addDistinct_twice (h : point.same point = true) :
    addDistinct (addDistinct points point) point = addDistinct points point := by
  rw [addDistinct_eq_self_iff, addDistinct]
  split
  · exact .inr (by rw [List.any_cons, h, Bool.true_or])
  · rename_i hfull
    simpa [or_iff_not_imp_left] using hfull

theorem foldl_addDistinct_settled (h : addDistinct points point = points)
    (vertices : List (Point Float)) :
    addDistinct (vertices.foldl addDistinct points) point = vertices.foldl addDistinct points := by
  induction vertices generalizing points with
  | nil => exact h
  | cons vertex vertices ih => exact ih (addDistinct_settled h)

/-- A vertex is no new point behind the list it stands in. -/
theorem foldl_addDistinct_concat (hmem : point ∈ vertices) (hsame : point.same point = true)
    (points : List (Point Float)) :
    (vertices ++ [point]).foldl addDistinct points = vertices.foldl addDistinct points := by
  rw [List.foldl_append]
  change addDistinct _ point = _
  induction vertices generalizing points with
  | nil => cases hmem
  | cons vertex vertices ih =>
    rcases List.mem_cons.mp hmem with rfl | hmem
    · exact foldl_addDistinct_settled (addDistinct_twice hsame) vertices
    · exact ih hmem _

theorem closed_concat_first {first last : Point Float} (hfirst : vertices.head? = some first)
    (hlast : vertices.getLast? = some last) (hopen : first.same last = false)
    (hsame : first.same first = true) : closed (vertices ++ [first]) = closed vertices := by
  have hhead : (vertices ++ [first]).head? = some first := by
    rw [List.head?_append, hfirst]
    rfl
  rw [closed, closed, hhead, List.getLast?_concat, hfirst, hlast]
  simp [hsame, hopen]

theorem findNotFinite_eq_none (hfinite : ∀ vertex ∈ vertices,
      Float64.isFinite vertex.x = true ∧ Float64.isFinite vertex.y = true) :
    findNotFinite vertices = none := by
  refine List.find?_eq_none.mpr fun vertex hvertex => ?_
  obtain ⟨hx, hy⟩ := hfinite vertex hvertex
  simp [hx, hy]

/-- **A ring that is closed by hand.**  It is the ring that is closed by itself. -/
theorem ofVertices_concat_first {first last : Point Float} (hfirst : vertices.head? = some first)
    (hlast : vertices.getLast? = some last) (hopen : first.same last = false)
    (hfinite : ∀ vertex ∈ vertices,
      Float64.isFinite vertex.x = true ∧ Float64.isFinite vertex.y = true) :
    ofVertices (vertices ++ [first]) = ofVertices vertices := by
  have hmem : first ∈ vertices := List.mem_of_mem_head? hfirst
  have hsame := Point.same_self (hfinite first hmem).1 (hfinite first hmem).2
  have hclosed : ∀ vertex ∈ vertices ++ [first],
      Float64.isFinite vertex.x = true ∧ Float64.isFinite vertex.y = true :=
    List.forall_mem_append.mpr
      ⟨hfinite, List.forall_mem_singleton.mpr (hfinite first hmem)⟩
  rw [ofVertices, ofVertices, findNotFinite_eq_none hfinite, findNotFinite_eq_none hclosed]
  simp only [foldl_addDistinct_concat hmem hsame, ofRings,
    closed_concat_first hfirst hlast hopen hsame]

end Polygon

/-! ## Queries -/

namespace GridIndex

variable (index : GridIndex) {vertices : List (Point Float)}

theorem polygon_concat_first {first last : Point Float} (henough : 3 ≤ vertices.length)
    (hfirst : vertices.head? = some first) (hlast : vertices.getLast? = some last)
    (hopen : first.same last = false) : polygon (vertices ++ [first]) = polygon vertices := by
  rw [polygon, polygon, Query.checkVertices_concat henough (List.mem_of_mem_head? hfirst)]
  cases hcheck : Query.checkVertices vertices with
  | error error => rfl
  | ok _ =>
    exact Polygon.ofVertices_concat_first hfirst hlast hopen fun vertex hvertex =>
      ((Query.checkVertices_eq_ok_iff.mp hcheck).2 vertex hvertex).isFinite

theorem result_queryPolygon_of_error {error : Error} (h : polygon vertices = .error error) :
    (index.queryPolygon vertices).result = .error error := by
  rw [queryPolygon, h]
  rfl

/-- The answer to a query is that to its polygon. -/
theorem result_queryPolygon_congr {others : List (Point Float)}
    (h : polygon vertices = polygon others) :
    (index.queryPolygon vertices).result = (index.queryPolygon others).result := by
  rw [queryPolygon, queryPolygon, h]
  cases polygon others with
  | error error => rfl
  | ok polygon =>
    dsimp only
    cases hinsert : (index.grid.rangeTree.insert polygon).result with
    | error error =>
      rw [Attempt.result_bind_of_error hinsert, Attempt.result_bind_of_error hinsert]
    | ok inserted =>
      rw [Attempt.result_bind_of_ok hinsert, Attempt.result_bind_of_ok hinsert]
      cases inserted.1 <;> rfl

/-- A check before the query is not heard of. -/
theorem result_queryPolygon_of_checked {checked : Except Error (List (Point Float))}
    (h : checked = (Query.checkVertices vertices).map fun _ => vertices) :
    (Attempt.ofExcept checked >>= index.queryPolygon).result
      = (index.queryPolygon vertices).result := by
  cases hcheck : Query.checkVertices vertices with
  | ok _ =>
    rw [hcheck] at h
    exact Attempt.result_bind_of_ok (by rw [h]; rfl) _
  | error error =>
    rw [hcheck] at h
    have hpolygon : polygon vertices = .error error := by rw [polygon, hcheck]; rfl
    rw [index.result_queryPolygon_of_error hpolygon]
    exact Attempt.result_bind_of_error (by rw [h]; rfl) _

/-- **One polygon, one answer.**  A document with the polygon, a feature around it, a text with its
vertices and the vertices themselves have the same ranges or the same error, and so have the
vertices of an open ring with the first one repeated. -/
theorem query_forms_agree (henough : 3 ≤ vertices.length) :
    (∀ (text : String) (members : List (String × Json)),
        Json.ofText? text = .ok (.object members) →
        GeoJson.IsRing members vertices ∨ GeoJson.IsFeature members vertices →
        (index.queryGeoJson text).result = (index.queryPolygon vertices).result) ∧
      (∀ text : String, Query.Spells text.toList vertices →
        (index.queryText text).result = (index.queryPolygon vertices).result) ∧
      ∀ first last : Point Float, vertices.head? = some first → vertices.getLast? = some last →
        first.same last = false →
        (index.queryPolygon (vertices ++ [first])).result
          = (index.queryPolygon vertices).result := by
  refine ⟨fun text members htext hring => ?_, fun text hspells => ?_,
    fun first last hfirst hlast hopen => ?_⟩
  · exact index.result_queryPolygon_of_checked (GeoJson.verticesOfText_of_ring htext hring)
  · exact index.result_queryPolygon_of_checked (Query.ofText_of_spells hspells)
  · exact index.result_queryPolygon_congr (polygon_concat_first henough hfirst hlast hopen)

/-- An index on two by two cells a degree wide. -/
def twoByTwo : GridIndex where
  name := "places"
  config := ⟨0, 0, 2, 0, 2, 111000, 1, ["longitude", "latitude"], ["bigint", "bigint"], "long"⟩
  grid := ⟨⟨0, 0⟩, ⟨1, 1⟩, 1, 1⟩

/-- A triangle at the origin. -/
def cornerTriangle : List (Point Float) := [⟨0, 0⟩, ⟨1, 0⟩, ⟨0, 1⟩]

private theorem ofText?_cornerTriangle : Json.ofText? ("\x7b\"type\":\"Polygon\"," ++
      "\"coordinates\":[[[0,0,5],[1,0.0],[0,1e0]]]\x7d")
    = .ok (.object [("type", .string "Polygon"), ("coordinates", .list [.list [
        .list [.number ⟨false, 0, [], none⟩, .number ⟨false, 0, [], none⟩,
          .number ⟨false, 5, [], none⟩],
        .list [.number ⟨false, 1, [], none⟩, .number ⟨false, 0, [0], none⟩],
        .list [.number ⟨false, 0, [], none⟩, .number ⟨false, 1, [], some 0⟩]]])]) := by
  decide +kernel

private theorem spells_cornerTriangle :
    Query.Spells "0,0;1, 0.0;.0,1e0 ".toList cornerTriangle := by
  refine ⟨[(['0'], ['0']), (['1'], [' ', '0', '.', '0']), (['.', '0'], ['1', 'e', '0', ' '])],
    .cons ⟨?_, ?_⟩ (.cons ⟨?_, ?_⟩ (.cons ⟨?_, ?_⟩ .nil)), by decide⟩
  all_goals decide +kernel

theorem query_forms_cornerTriangle : 3 ≤ cornerTriangle.length
    ∧ (twoByTwo.queryGeoJson ("\x7b\"type\":\"Polygon\"," ++
        "\"coordinates\":[[[0,0,5],[1,0.0],[0,1e0]]]\x7d")).result
      = (twoByTwo.queryText "0,0;1, 0.0;.0,1e0 ").result
    ∧ (twoByTwo.queryPolygon (cornerTriangle ++ [⟨0, 0⟩])).result
      = (twoByTwo.queryPolygon cornerTriangle).result := by
  obtain ⟨hdocument, htext, hclosed⟩ :=
    @query_forms_agree twoByTwo cornerTriangle (by decide)
  refine ⟨by decide, ?_, hclosed ⟨0, 0⟩ ⟨0, 1⟩ rfl rfl (by decide +kernel)⟩
  refine (hdocument _ _ ofText?_cornerTriangle (.inl ⟨rfl, rfl, _, ?_, rfl⟩)).trans
    (htext _ spells_cornerTriangle).symm
  refine .cons ⟨_, _, [⟨false, 5, [], none⟩], rfl, ?_, ?_⟩ (.cons ⟨_, _, [], rfl, ?_, ?_⟩
    (.cons ⟨_, _, [], rfl, ?_, ?_⟩ .nil))
  all_goals decide +kernel

end GridIndex

end ZGrid
