import ZGrid.Proofs.FloatOrder
import ZGrid.Query.Vertices

/-!
# Proofs/GlobeVertices — which vertices a query refuses, and why

A point on the globe has two finite coordinates, within 180 and 90 of zero (`OnGlobe`).  Any other
point is off the globe for one reason, the first in this order (`Off`):

```
   longitude not finite  ▸  latitude not finite  ▸  longitude out of range  ▸  latitude out of range
```

Vertices are refused if they are fewer than three, and else for the first of them that is off the
globe (`Unfit`).  Coordinates are compared by their exact values here.
-/

namespace ZGrid

/-! ## Points -/

/-- The largest coordinate of an axis, as a number. -/
def Axis.bound : Axis → Rat
  | .longitude => 180
  | .latitude => 90

theorem Axis.isFinite_limit (axis : Axis) : Float64.isFinite axis.limit = true
    ∧ Float64.isFinite (-axis.limit) = true := by
  cases axis <;> decide +kernel

theorem Axis.exact_limit (axis : Axis) : Float64.exact axis.limit = axis.bound
    ∧ Float64.exact (-axis.limit) = -axis.bound := by
  cases axis <;> decide +kernel

theorem Axis.admits_iff (axis : Axis) {x : Float} (hx : Float64.isFinite x = true) :
    axis.admits x = true ↔ |Float64.exact x| ≤ axis.bound := by
  obtain ⟨hlimit, hneg⟩ := axis.isFinite_limit
  rw [admits, Bool.and_eq_true, decide_eq_true_iff, decide_eq_true_iff,
    Float64.le_iff_exact_le hneg hx, Float64.le_iff_exact_le hx hlimit, axis.exact_limit.1,
    axis.exact_limit.2, abs_le]

namespace Point

/-- A point on the globe. -/
structure OnGlobe (point : Point Float) : Prop where
  /-- The longitude is a number. -/
  isFinite_x : Float64.isFinite point.x = true
  /-- The latitude is one. -/
  isFinite_y : Float64.isFinite point.y = true
  /-- The longitude lies within 180 of zero. -/
  longitude_le : |Float64.exact point.x| ≤ 180
  /-- The latitude lies within 90 of zero. -/
  latitude_le : |Float64.exact point.y| ≤ 90

/-- Why a point is none on the globe. -/
inductive Off (point : Point Float) : PointFault → Prop
  /-- The longitude is no number. -/
  | longitudeNotFinite (hx : Float64.isFinite point.x = false) :
      Off point (.notFinite .longitude point.x)
  /-- The longitude is a number, and the latitude is none. -/
  | latitudeNotFinite (hx : Float64.isFinite point.x = true)
      (hy : Float64.isFinite point.y = false) : Off point (.notFinite .latitude point.y)
  /-- Both are numbers, and the longitude is too far from zero. -/
  | longitudeOut (hx : Float64.isFinite point.x = true) (hy : Float64.isFinite point.y = true)
      (hfar : 180 < |Float64.exact point.x|) : Off point (.outOfRange .longitude point.x)
  /-- Both are numbers, and only the latitude is too far from zero. -/
  | latitudeOut (hx : Float64.isFinite point.x = true) (hy : Float64.isFinite point.y = true)
      (hnear : |Float64.exact point.x| ≤ 180) (hfar : 90 < |Float64.exact point.y|) :
      Off point (.outOfRange .latitude point.y)

variable {point : Point Float} {fault : PointFault}

theorem OnGlobe.isFinite (h : point.OnGlobe) :
    Float64.isFinite point.x = true ∧ Float64.isFinite point.y = true :=
  ⟨h.isFinite_x, h.isFinite_y⟩

theorem OnGlobe.fault?_eq (h : point.OnGlobe) : point.fault? = none := by
  simp [fault?, h.isFinite_x, h.isFinite_y,
    (Axis.longitude.admits_iff h.isFinite_x).mpr h.longitude_le,
    (Axis.latitude.admits_iff h.isFinite_y).mpr h.latitude_le]

theorem Off.fault?_eq (h : point.Off fault) : point.fault? = some fault := by
  have hout : ∀ axis : Axis, ∀ {x : Float}, Float64.isFinite x = true →
      axis.bound < |Float64.exact x| → axis.admits x = false := fun axis _ hx hfar =>
    Bool.eq_false_iff.mpr (mt (axis.admits_iff hx).mp (not_le.mpr hfar))
  cases h with
  | longitudeNotFinite hx => simp [fault?, hx]
  | latitudeNotFinite hx hy => simp [fault?, hx, hy]
  | longitudeOut hx hy hfar => simp [fault?, hx, hy, hout .longitude hx hfar]
  | latitudeOut hx hy hnear hfar =>
    simp [fault?, hx, hy, (Axis.longitude.admits_iff hx).mpr hnear, hout .latitude hy hfar]

/-- **A point is on the globe, or there is a reason why not.** -/
theorem onGlobe_or_off (point : Point Float) : point.OnGlobe ∨ ∃ fault, point.Off fault := by
  cases hx : Float64.isFinite point.x with
  | false => exact .inr ⟨_, .longitudeNotFinite hx⟩
  | true =>
    cases hy : Float64.isFinite point.y with
    | false => exact .inr ⟨_, .latitudeNotFinite hx hy⟩
    | true =>
      obtain hnear | hfar := le_or_gt |Float64.exact point.x| 180
      · obtain hnear' | hfar' := le_or_gt |Float64.exact point.y| 90
        · exact .inl ⟨hx, hy, hnear, hnear'⟩
        · exact .inr ⟨_, .latitudeOut hx hy hnear hfar'⟩
      · exact .inr ⟨_, .longitudeOut hx hy hfar⟩

theorem fault?_eq_none_iff : point.fault? = none ↔ point.OnGlobe := by
  refine ⟨fun h => ?_, OnGlobe.fault?_eq⟩
  obtain hon | ⟨fault, hoff⟩ := onGlobe_or_off point
  · exact hon
  · rw [hoff.fault?_eq] at h
    cases h

theorem fault?_eq_some_iff : point.fault? = some fault ↔ point.Off fault := by
  refine ⟨fun h => ?_, Off.fault?_eq⟩
  obtain hon | ⟨other, hoff⟩ := onGlobe_or_off point
  · rw [hon.fault?_eq] at h
    cases h
  · obtain rfl : other = fault := Option.some.inj (hoff.fault?_eq.symm.trans h)
    exact hoff

end Point

/-! ## Vertices -/

namespace Query

/-- Why vertices are refused. -/
inductive Unfit (vertices : List (Point Float)) : InputFault → Prop
  /-- They are fewer than three. -/
  | tooFew (hfew : vertices.length < 3) : Unfit vertices (.tooFewPoints vertices.length)
  /-- They are enough, and one of them is the first that is off the globe. -/
  | vertex {before after : List (Point Float)} {vertex : Point Float} {fault : PointFault}
      (henough : 3 ≤ vertices.length) (hsplit : vertices = before ++ vertex :: after)
      (hbefore : ∀ earlier ∈ before, earlier.OnGlobe) (hoff : vertex.Off fault) :
      Unfit vertices (.vertex before.length fault)

variable {vertices : List (Point Float)} {index : Nat} {fault : InputFault}

theorem vertexFault?_eq_none_iff :
    vertexFault? index vertices = none ↔ ∀ vertex ∈ vertices, vertex.OnGlobe := by
  induction vertices generalizing index with
  | nil => simp [vertexFault?]
  | cons vertex vertices ih =>
    rw [vertexFault?, List.forall_mem_cons, ← Point.fault?_eq_none_iff]
    cases vertex.fault? with
    | some fault => simp
    | none => simp [ih]

/-- **The first vertex off the globe**, and its place. -/
theorem vertexFault?_eq_some_iff : vertexFault? index vertices = some fault
    ↔ ∃ before vertex after reason, vertices = before ++ vertex :: after
      ∧ (∀ earlier ∈ before, earlier.OnGlobe) ∧ vertex.Off reason
      ∧ fault = .vertex (index + before.length) reason := by
  induction vertices generalizing index with
  | nil => simp [vertexFault?]
  | cons vertex vertices ih =>
    rw [vertexFault?]
    constructor
    · intro h
      cases hvertex : vertex.fault? with
      | some reason =>
        rw [hvertex] at h
        exact ⟨[], vertex, vertices, reason, rfl, nofun, Point.fault?_eq_some_iff.mp hvertex,
          (Option.some.inj h).symm⟩
      | none =>
        rw [hvertex] at h
        obtain ⟨before, failing, after, reason, rfl, hbefore, hoff, rfl⟩ := ih.mp h
        refine ⟨vertex :: before, failing, after, reason, rfl,
          List.forall_mem_cons.mpr ⟨Point.fault?_eq_none_iff.mp hvertex, hbefore⟩, hoff, ?_⟩
        rw [List.length_cons, Nat.add_right_comm, Nat.add_assoc]
    · rintro ⟨before, failing, after, reason, heq, hbefore, hoff, rfl⟩
      cases before with
      | nil =>
        obtain ⟨rfl, rfl⟩ := List.cons.inj heq
        rw [hoff.fault?_eq]
        rfl
      | cons earlier before =>
        obtain ⟨rfl, rfl⟩ := List.cons.inj heq
        obtain ⟨hearlier, hbefore⟩ := List.forall_mem_cons.mp hbefore
        rw [hearlier.fault?_eq]
        refine ih.mpr ⟨before, failing, after, reason, rfl, hbefore, hoff, ?_⟩
        rw [List.length_cons, Nat.add_right_comm, Nat.add_assoc]

/-- **Vertices pass if they are three or more, all of them on the globe.** -/
theorem checkVertices_eq_ok_iff : checkVertices vertices = .ok ()
    ↔ 3 ≤ vertices.length ∧ ∀ vertex ∈ vertices, vertex.OnGlobe := by
  rw [checkVertices, ← @vertexFault?_eq_none_iff vertices 0]
  split
  · rename_i hfew
    exact iff_of_false nofun fun h => absurd h.1 (not_le.mpr hfew)
  · rename_i henough
    rw [not_lt] at henough
    cases vertexFault? 0 vertices with
    | some fault => exact iff_of_false nofun fun h => Option.some_ne_none _ h.2
    | none => exact iff_of_true rfl ⟨henough, rfl⟩

/-- **Otherwise they are refused for the reason why they are unfit.** -/
theorem checkVertices_eq_error_iff {error : Error} : checkVertices vertices = .error error
    ↔ ∃ fault, Unfit vertices fault ∧ error = .invalidInput fault := by
  constructor
  · intro h
    rw [checkVertices] at h
    split at h
    · rename_i hfew
      exact ⟨_, .tooFew hfew, (Except.error.inj h).symm⟩
    · rename_i henough
      rw [not_lt] at henough
      split at h
      · rename_i fault hfault
        obtain ⟨before, vertex, after, reason, hsplit, hbefore, hoff, rfl⟩ :=
          vertexFault?_eq_some_iff.mp hfault
        rw [Nat.zero_add] at h
        exact ⟨_, .vertex henough hsplit hbefore hoff, (Except.error.inj h).symm⟩
      · cases h
  · rintro ⟨fault, hunfit, rfl⟩
    cases hunfit with
    | tooFew hfew => rw [checkVertices, if_pos hfew]
    | @vertex before after vertex reason henough hsplit hbefore hoff =>
      have hfault : vertexFault? 0 vertices = some (.vertex before.length reason) :=
        vertexFault?_eq_some_iff.mpr
          ⟨before, vertex, after, reason, hsplit, hbefore, hoff, by rw [Nat.zero_add]⟩
      rw [checkVertices, if_neg (not_lt.mpr henough), hfault]

end Query

end ZGrid
