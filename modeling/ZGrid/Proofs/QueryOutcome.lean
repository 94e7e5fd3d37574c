import ZGrid.Proofs.AliasedKeys
import ZGrid.Proofs.Envelope
import ZGrid.Proofs.GlobeVertices
import ZGrid.Proofs.QueryForms

/-!
# Proofs/QueryOutcome — what becomes of a query

```
   fewer than three vertices                  refused
   a vertex off the globe                     refused, the first one named
   fewer than three different points          refused, their number told
   a vertex past a side of the padded grid    no ranges
   anything else                              ranges, maybe none
```

The first line that applies tells what becomes of it.  Points are told apart by their exact values
(`Point.value`), so zero and minus zero are one number.  A polygon that is made has vertices, and
finite ones: no later step can fail.
-/

namespace ZGrid

open Float64

/-! ## Different points -/

/-- The point of the plane that two floats stand for. -/
def Point.value (point : Point Float) : Point Rat :=
  ⟨Float64.exact point.x, Float64.exact point.y⟩

theorem Point.same_iff {a b : Point Float}
    (ha : isFinite a.x = true ∧ isFinite a.y = true)
    (hb : isFinite b.x = true ∧ isFinite b.y = true) : a.same b = true ↔ a.value = b.value := by
  rw [same, Bool.and_eq_true, beq_iff_exact_eq ha.1 hb.1, beq_iff_exact_eq ha.2 hb.2, value, value,
    Point.mk.injEq]

namespace Polygon

/-- The different points among some vertices. -/
def places (vertices : List (Point Float)) : Finset (Point Rat) :=
  (vertices.map Point.value).toFinset

variable {points vertices : List (Point Float)}

theorem card_places_of_nodup (h : (points.map Point.value).Nodup) :
    (places points).card = points.length :=
  (List.toFinset_card_of_nodup h).trans (List.length_map _)

theorem card_places_mono (points vertices : List (Point Float)) :
    (places points).card ≤ (places (points ++ vertices)).card := by
  refine Finset.card_le_card fun place hplace => ?_
  rw [places, List.mem_toFinset] at hplace ⊢
  rw [List.map_append]
  exact List.mem_append_left _ hplace

/-- A vertex is one of the points if one of them has its value. -/
theorem any_same_iff {vertex : Point Float}
    (hvertex : isFinite vertex.x = true ∧ isFinite vertex.y = true)
    (hfinite : ∀ point ∈ points, isFinite point.x = true ∧ isFinite point.y = true) :
    points.any vertex.same = true ↔ vertex.value ∈ points.map Point.value := by
  rw [List.any_eq_true, List.mem_map]
  refine exists_congr fun point => and_congr_right fun hpoint => ?_
  rw [Point.same_iff hvertex (hfinite point hpoint), eq_comm]

/-- **Counting up to three.**  The points that are kept differ from each other, and a vertex that is
not added is one of them or the fourth. -/
theorem length_foldl_addDistinct (hdiffer : (points.map Point.value).Nodup)
    (hfew : points.length ≤ 3)
    (hfinite : ∀ point ∈ points ++ vertices, isFinite point.x = true ∧ isFinite point.y = true) :
    (vertices.foldl addDistinct points).length = min 3 (places (points ++ vertices)).card := by
  induction vertices generalizing points with
  | nil =>
    rw [List.append_nil, card_places_of_nodup hdiffer, min_eq_right hfew]
    rfl
  | cons vertex vertices ih =>
    have hperm : (points ++ vertex :: vertices).Perm (vertex :: points ++ vertices) :=
      List.perm_middle
    have hfinite' : ∀ point ∈ vertex :: points ++ vertices,
        isFinite point.x = true ∧ isFinite point.y = true := fun point hpoint =>
      hfinite point (hperm.mem_iff.mpr hpoint)
    have hrest : ∀ point ∈ points ++ vertices, isFinite point.x = true ∧ isFinite point.y = true :=
      fun point hpoint => hfinite' point (List.mem_cons_of_mem _ hpoint)
    have hplaces : places (points ++ vertex :: vertices) = places (vertex :: points ++ vertices) :=
      List.toFinset_eq_of_perm _ _ (hperm.map Point.value)
    have hsame : points.any vertex.same = true ↔ vertex.value ∈ points.map Point.value :=
      any_same_iff (hfinite' vertex List.mem_cons_self) fun point hpoint =>
        hrest point (List.mem_append_left _ hpoint)
    rw [List.foldl_cons]
    by_cases hkept : points.any vertex.same = true
    · have hmem : vertex.value ∈ (points ++ vertices).map Point.value := by
        rw [List.map_append]
        exact List.mem_append_left _ (hsame.mp hkept)
      rw [addDistinct_eq_self_iff.mpr (.inr hkept), ih hdiffer hfew hrest, hplaces, places, places,
        List.cons_append, List.map_cons, List.toFinset_cons,
        Finset.insert_eq_of_mem (List.mem_toFinset.mpr hmem)]
    · by_cases hfull : points.length = 3
      · have hthree : ∀ more : List (Point Float), 3 ≤ (places (points ++ more)).card := by
          intro more
          rw [← hfull, ← card_places_of_nodup hdiffer]
          exact card_places_mono points more
        rw [addDistinct_eq_self_iff.mpr (.inl hfull.ge), ih hdiffer hfew hrest,
          min_eq_left (hthree _), min_eq_left (hthree _)]
      · have hadd : addDistinct points vertex = vertex :: points :=
          if_pos (by simp [hkept, lt_of_le_of_ne hfew hfull])
        have hdiffer' : ((vertex :: points).map Point.value).Nodup :=
          List.nodup_cons.mpr ⟨mt hsame.mpr hkept, hdiffer⟩
        rw [hadd, ih hdiffer' (by rw [List.length_cons]; omega) hfinite', hplaces]

/-- **A polygon of finite vertices**, if three of them differ. -/
theorem ofVertices_eq
    (hfinite : ∀ vertex ∈ vertices, isFinite vertex.x = true ∧ isFinite vertex.y = true) :
    ofVertices vertices = if (places vertices).card < 3
      then .error (.invalidInput (.tooFewDistinct (places vertices).card))
      else .ok (ofRings vertices []) := by
  have hcount : (vertices.foldl addDistinct []).length = min 3 (places vertices).card :=
    length_foldl_addDistinct List.nodup_nil (Nat.zero_le 3) hfinite
  rw [ofVertices, findNotFinite_eq_none hfinite]
  dsimp only
  rw [hcount]
  by_cases hfew : (places vertices).card < 3
  · rw [min_eq_right hfew.le]
  · rw [min_eq_left (not_lt.mp hfew), if_neg (lt_irrefl 3), if_neg hfew]

/-- Closing a ring adds no new vertex. -/
theorem mem_closed_iff {point : Point Float} : point ∈ closed vertices ↔ point ∈ vertices := by
  rw [closed]
  split
  · rename_i first last hfirst _
    split
    · rfl
    · rw [List.mem_append, List.mem_singleton, or_iff_left_iff_imp]
      rintro rfl
      exact List.mem_of_mem_head? hfirst
  · rfl

/-- **The envelope of a polygon without holes.** -/
theorem exists_envelope (hne : vertices ≠ [])
    (hfinite : ∀ vertex ∈ vertices, isFinite vertex.x = true ∧ isFinite vertex.y = true) :
    ∃ box, (ofRings vertices []).envelope = .ok box ∧ box.Surrounds vertices := by
  obtain ⟨vertex, hvertex⟩ := List.exists_mem_of_ne_nil vertices hne
  have hne' : closed vertices ≠ [] := List.ne_nil_of_mem (mem_closed_iff.mpr hvertex)
  obtain ⟨box, hbox, hsurrounds⟩ := exists_boundingBox? hne' fun point hpoint =>
    hfinite point (mem_closed_iff.mp hpoint)
  refine ⟨box, ?_, hsurrounds.of_mem_iff fun point => mem_closed_iff⟩
  rw [envelope, ofRings]
  simp only [hbox]

end Polygon

/-! ## Refusals -/

namespace Query

/-- The vertices are those of a polygon on the globe. -/
structure Admitted (vertices : List (Point Float)) : Prop where
  /-- They are three or more. -/
  enough : 3 ≤ vertices.length
  /-- All of them are on the globe. -/
  onGlobe : ∀ vertex ∈ vertices, vertex.OnGlobe
  /-- Three of them differ. -/
  different : 3 ≤ (Polygon.places vertices).card

/-- Why the vertices of a query are refused. -/
inductive Refused (vertices : List (Point Float)) : InputFault → Prop
  /-- They are too few, or one of them is off the globe. -/
  | unfit {fault : InputFault} (hunfit : Unfit vertices fault) : Refused vertices fault
  /-- They are enough and on the globe, but fewer than three differ. -/
  | alike (henough : 3 ≤ vertices.length) (honGlobe : ∀ vertex ∈ vertices, vertex.OnGlobe)
      (hfew : (Polygon.places vertices).card < 3) :
      Refused vertices (.tooFewDistinct (Polygon.places vertices).card)

variable {vertices : List (Point Float)} {fault : InputFault}

theorem Admitted.polygon_eq (h : Admitted vertices) :
    GridIndex.polygon vertices = .ok (Polygon.ofRings vertices []) := by
  rw [GridIndex.polygon, checkVertices_eq_ok_iff.mpr ⟨h.enough, h.onGlobe⟩]
  exact (Polygon.ofVertices_eq fun vertex hvertex => (h.onGlobe vertex hvertex).isFinite).trans
    (if_neg (not_lt.mpr h.different))

theorem Refused.polygon_eq (h : Refused vertices fault) :
    GridIndex.polygon vertices = .error (.invalidInput fault) := by
  cases h with
  | unfit hunfit =>
    rw [GridIndex.polygon, checkVertices_eq_error_iff.mpr ⟨_, hunfit, rfl⟩]
    rfl
  | alike henough honGlobe hfew =>
    rw [GridIndex.polygon, checkVertices_eq_ok_iff.mpr ⟨henough, honGlobe⟩]
    exact (Polygon.ofVertices_eq fun vertex hvertex => (honGlobe vertex hvertex).isFinite).trans
      (if_pos hfew)

/-- **Vertices are admitted, or there is a reason why not.** -/
theorem admitted_or_refused (vertices : List (Point Float)) :
    Admitted vertices ∨ ∃ fault, Refused vertices fault := by
  cases hcheck : checkVertices vertices with
  | error error =>
    obtain ⟨fault, hunfit, -⟩ := checkVertices_eq_error_iff.mp hcheck
    exact .inr ⟨fault, .unfit hunfit⟩
  | ok =>
    obtain ⟨henough, honGlobe⟩ := checkVertices_eq_ok_iff.mp hcheck
    obtain hfew | hdifferent := lt_or_ge (Polygon.places vertices).card 3
    · exact .inr ⟨_, .alike henough honGlobe hfew⟩
    · exact .inl ⟨henough, honGlobe, hdifferent⟩

theorem Refused.not_admitted (h : Refused vertices fault) : ¬ Admitted vertices := by
  intro hadmitted
  have heq := hadmitted.polygon_eq.symm.trans h.polygon_eq
  cases heq

theorem not_admitted_iff : ¬ Admitted vertices ↔ vertices.length < 3
    ∨ (∃ vertex ∈ vertices, ¬ vertex.OnGlobe) ∨ (Polygon.places vertices).card < 3 := by
  have hadmitted : Admitted vertices ↔ 3 ≤ vertices.length
      ∧ (∀ vertex ∈ vertices, vertex.OnGlobe) ∧ 3 ≤ (Polygon.places vertices).card :=
    ⟨fun h => ⟨h.enough, h.onGlobe, h.different⟩, fun h => ⟨h.1, h.2.1, h.2.2⟩⟩
  rw [hadmitted, not_and_or, not_and_or, not_le, not_le]
  simp only [not_forall, exists_prop]

end Query

/-! ## Answers -/

namespace GridIndex

open Query

variable (index : GridIndex) {vertices : List (Point Float)} {error : Error}

/-- A polygon past the grid is not placed, nor is one that misses it; any other has ranges. -/
theorem exists_ranges_of_envelope {polygon : Polygon Float} {box : Box Float}
    (hpolygon : GridIndex.polygon vertices = .ok polygon) (henvelope : polygon.envelope = .ok box) :
    ∃ ranges, (index.queryPolygon vertices).result = .ok ranges
      ∧ (index.grid.bounds.exceededBy box = true → ranges = []) := by
  have hregion : (Request.polygon polygon).region Region.ofPolygon
      = .ok { Shape.ofPolygon polygon with envelope := box } := by
    rw [Request.region, Region.ofPolygon, henvelope]
    rfl
  have hinsert := RangeTree.result_insert index.grid.rangeTree polygon
  rw [queryPolygon, hpolygon]
  dsimp only
  by_cases hfits : ({ Shape.ofPolygon polygon with envelope := box } : Region Float).Fits
      index.grid.rangeTree.bounds
  · rw [RangeTree.respond_of_fits hregion hfits] at hinsert
    refine ⟨_, Attempt.result_bind_of_ok hinsert _, fun hpast => ?_⟩
    exact absurd (hfits.within.symm.trans hpast) (by decide)
  · rw [RangeTree.respond_of_not_fits hregion hfits] at hinsert
    exact ⟨[], Attempt.result_bind_of_ok hinsert _, fun _ => rfl⟩

/-- **An admitted polygon is answered.** -/
theorem exists_answer (h : Admitted vertices) :
    ∃ box ranges, (Polygon.ofRings vertices []).envelope = .ok box
      ∧ (index.grid.bounds.exceededBy box = true
        ↔ ∃ vertex ∈ vertices, index.grid.bounds.Leaves vertex)
      ∧ (index.queryPolygon vertices).result = .ok ranges
      ∧ (index.grid.bounds.exceededBy box = true → ranges = []) := by
  have hfinite : ∀ vertex ∈ vertices, isFinite vertex.x = true ∧ isFinite vertex.y = true :=
    fun vertex hvertex => (h.onGlobe vertex hvertex).isFinite
  have hne : vertices ≠ [] := List.length_pos_iff.mp (Nat.lt_of_lt_of_le (by decide) h.enough)
  obtain ⟨box, henvelope, hsurrounds⟩ := Polygon.exists_envelope hne hfinite
  obtain ⟨ranges, hresult, hpast⟩ := index.exists_ranges_of_envelope h.polygon_eq henvelope
  exact ⟨box, ranges, henvelope, hsurrounds.exceededBy_iff hfinite, hresult, hpast⟩

theorem result_queryPolygon_eq_error_iff : (index.queryPolygon vertices).result = .error error
    ↔ ∃ fault, Refused vertices fault ∧ error = .invalidInput fault := by
  constructor
  · intro h
    obtain hadmitted | ⟨fault, hrefused⟩ := admitted_or_refused vertices
    · obtain ⟨-, ranges, -, -, hresult, -⟩ := index.exists_answer hadmitted
      rw [hresult] at h
      cases h
    · rw [index.result_queryPolygon_of_error hrefused.polygon_eq] at h
      exact ⟨fault, hrefused, (Except.error.inj h).symm⟩
  · rintro ⟨fault, hrefused, rfl⟩
    exact index.result_queryPolygon_of_error hrefused.polygon_eq

/-- **When a query fails.**  It fails if there are fewer than three vertices, if one is off the
globe or if fewer than three differ, for the first of these reasons and with the first bad vertex
named.  Otherwise it is answered, and if the envelope reaches past the grid, as it does if a vertex
does, then with no ranges. -/
theorem queryPolygon_outcome (vertices : List (Point Float)) :
    (∀ error, (index.queryPolygon vertices).result = .error error
      ↔ ∃ fault, Refused vertices fault ∧ error = .invalidInput fault)
    ∧ ((∃ error, (index.queryPolygon vertices).result = .error error)
      ↔ vertices.length < 3 ∨ (∃ vertex ∈ vertices, ¬ vertex.OnGlobe)
        ∨ (Polygon.places vertices).card < 3)
    ∧ (3 ≤ vertices.length → (∀ vertex ∈ vertices, vertex.OnGlobe) →
      3 ≤ (Polygon.places vertices).card →
      ∃ polygon box ranges, GridIndex.polygon vertices = .ok polygon ∧ polygon.envelope = .ok box
        ∧ (index.grid.bounds.exceededBy box = true
          ↔ ∃ vertex ∈ vertices, index.grid.bounds.Leaves vertex)
        ∧ (index.queryPolygon vertices).result = .ok ranges
        ∧ (index.grid.bounds.exceededBy box = true → ranges = [])) := by
  refine ⟨fun error => index.result_queryPolygon_eq_error_iff, ?_,
    fun henough honGlobe hdifferent => ?_⟩
  · rw [← not_admitted_iff]
    constructor
    · rintro ⟨error, herror⟩
      obtain ⟨fault, hrefused, -⟩ := index.result_queryPolygon_eq_error_iff.mp herror
      exact hrefused.not_admitted
    · intro hadmitted
      obtain ⟨fault, hrefused⟩ := (admitted_or_refused vertices).resolve_left hadmitted
      exact ⟨_, index.result_queryPolygon_eq_error_iff.mpr ⟨fault, hrefused, rfl⟩⟩
  · have hadmitted : Admitted vertices := ⟨henough, honGlobe, hdifferent⟩
    obtain ⟨box, ranges, hanswer⟩ := index.exists_answer hadmitted
    exact ⟨_, box, ranges, hadmitted.polygon_eq, hanswer⟩

/-- A triangle that reaches past the eastern side of the grid. -/
def wideTriangle : List (Point Float) := [⟨0, 0⟩, ⟨3, 0⟩, ⟨0, 1⟩]

/-- Four vertices at two points. -/
def twoPlaces : List (Point Float) := [⟨0, 0⟩, ⟨-0, 0⟩, ⟨1, 1⟩, ⟨0, -0⟩]

theorem queryPolygon_outcome_twoByTwo :
    (3 ≤ wideTriangle.length ∧ (∀ vertex ∈ wideTriangle, vertex.OnGlobe)
        ∧ 3 ≤ (Polygon.places wideTriangle).card)
      ∧ (twoByTwo.queryPolygon wideTriangle).result = .ok []
      ∧ (twoByTwo.queryPolygon twoPlaces).result = .error (.invalidInput (.tooFewDistinct 2)) := by
  have honGlobe : ∀ vertex ∈ wideTriangle, vertex.OnGlobe :=
    (@vertexFault?_eq_none_iff _ 0).mp (by decide +kernel)
  have hdifferent : 3 ≤ (Polygon.places wideTriangle).card := by decide +kernel
  obtain ⟨-, -, hanswer⟩ := twoByTwo.queryPolygon_outcome wideTriangle
  obtain ⟨-, box, ranges, -, -, hpast, hresult, hempty⟩ :=
    hanswer (by decide) honGlobe hdifferent
  have heast : twoByTwo.grid.bounds.Leaves ⟨3, 0⟩ := .inr (.inl (by decide +kernel))
  have htwo : (Polygon.places twoPlaces).card = 2 := by decide +kernel
  refine ⟨⟨by decide, honGlobe, hdifferent⟩, ?_, ?_⟩
  · rw [hresult, hempty (hpast.mpr ⟨⟨3, 0⟩, by simp [wideTriangle], heast⟩)]
  · refine ((twoByTwo.queryPolygon_outcome twoPlaces).1 _).mpr
      ⟨_, .alike (by decide) ((@vertexFault?_eq_none_iff _ 0).mp (by decide +kernel)) ?_, ?_⟩
    · rw [htwo]
      decide
    · rw [htwo]

end GridIndex

end ZGrid
