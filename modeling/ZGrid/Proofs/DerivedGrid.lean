import ZGrid.Proofs.CheckedConfig
import ZGrid.Proofs.ExactGrid
import ZGrid.Proofs.FloatOrder

/-!
# Proofs/DerivedGrid — the grid of a configuration is regular

A grid is worked out in floats.  Its numbers are exact fractions all the same, and the checks on the
way leave a grid whose cells have an extent along both axes, with a positive ratio and at most
`maxLevel` halvings.  So all that holds of regular grids over the fractions holds of the grid of
every configuration, its numbers taken as they are (`regular_exact_of_derive`).
-/

namespace ZGrid

open Float64

/-- The sides of the box of a configuration without faults. -/
theorem Config.sides_of_validate {config : Config} (h : config.validate = .ok ()) :
    (isFinite config.minLongitude = true ∧ isFinite config.maxLongitude = true
      ∧ exact config.minLongitude < exact config.maxLongitude)
    ∧ isFinite config.minLatitude = true ∧ isFinite config.maxLatitude = true
      ∧ exact config.minLatitude < exact config.maxLatitude := by
  obtain ⟨hfinite, -, -, -, hlongitudes, hlatitudes⟩ := checked_of_validate h
  have hwest := hfinite ("minlongitude", config.minLongitude) (by simp [parameters])
  have heast := hfinite ("maxlongitude", config.maxLongitude) (by simp [parameters])
  have hsouth := hfinite ("minlatitude", config.minLatitude) (by simp [parameters])
  have hnorth := hfinite ("maxlatitude", config.maxLatitude) (by simp [parameters])
  rw [ge_iff_le, le_iff_exact_le heast hwest, not_le] at hlongitudes
  rw [ge_iff_le, le_iff_exact_le hnorth hsouth, not_le] at hlatitudes
  exact ⟨⟨hwest, heast, hlongitudes⟩, hsouth, hnorth, hlatitudes⟩

namespace Grid

/-- The grid with its numbers taken as exact fractions. -/
def exact (grid : Grid Float) : Grid Rat where
  origin := ⟨Float64.exact grid.origin.x, Float64.exact grid.origin.y⟩
  delta := ⟨Float64.exact grid.delta.x, Float64.exact grid.delta.y⟩
  ratio := grid.ratio
  level := grid.level

variable {elementary : Elementary} {config : Config} {grid : Grid Float}

/-- The cells of the grid from the western side of a box to the eastern one. -/
def cellsEast (grid : Grid Float) (config : Config) : Float :=
  (config.maxLongitude - config.minLongitude) / grid.delta.x

/-- The cells of the grid from the southern side of a box to the northern one. -/
def cellsNorth (grid : Grid Float) (config : Config) : Float :=
  (config.maxLatitude - config.minLatitude) / grid.delta.y

/-- **The checks that a grid has passed.** -/
theorem checks_of_derive (h : derive elementary config = .ok grid) :
    config.validate = .ok () ∧ grid.ratio = config.conversionRatio
      ∧ (¬ grid.delta.x ≤ 0 ∧ isFinite grid.delta.x = true)
      ∧ (¬ grid.delta.y ≤ 0 ∧ isFinite grid.delta.y = true)
      ∧ ¬ levels elementary (grid.cellsEast config) (grid.cellsNorth config) > Float.ofNat maxLevel
      ∧ grid.level = (Float64.floor
        (levels elementary (grid.cellsEast config) (grid.cellsNorth config))).toNatClampNeg := by
  rw [derive] at h
  cases hvalidate : config.validate with
  | error error =>
    rw [hvalidate] at h
    cases h
  | ok =>
    rw [hvalidate] at h
    dsimp only [bind, Except.bind] at h
    split at h
    · cases h
    · rename_i hdelta
      split at h
      · cases h
      · rename_i hlevels
        cases h
        simp only [Bool.or_eq_true, decide_eq_true_iff, Bool.not_eq_true', not_or,
          Bool.not_eq_false] at hdelta
        obtain ⟨⟨⟨hx, hy⟩, hfinite⟩, hfinite'⟩ := hdelta
        exact ⟨rfl, rfl, ⟨hx, hfinite⟩, ⟨hy, hfinite'⟩, hlevels, rfl⟩

/-- A float that is not at most zero is positive. -/
theorem exact_pos {x : Float} (hfinite : isFinite x = true) (h : ¬ x ≤ 0) :
    0 < Float64.exact x := by
  rwa [le_iff_exact_le hfinite isFinite_zero, exact_zero, not_le] at h

/-- **A grid of a configuration has no more than `maxLevel` halvings.** -/
theorem level_le_of_derive (h : derive elementary config = .ok grid) : grid.level ≤ maxLevel := by
  obtain ⟨-, -, -, -, hlevels, hlevel⟩ := checks_of_derive h
  have hfinite : isFinite (Float.ofNat maxLevel) = true := by decide +kernel
  have hexact : ⌊Float64.exact (Float.ofNat maxLevel)⌋.toNat = maxLevel := by decide +kernel
  rw [hlevel, ← hexact]
  exact toNatClampNeg_floor_le hfinite hlevels

/-- **The grid of a configuration is regular.** -/
theorem regular_exact_of_derive (h : derive elementary config = .ok grid) : grid.exact.Regular := by
  obtain ⟨hvalidate, hratio, hx, hy, -⟩ := checks_of_derive h
  refine ⟨exact_pos hx.2 hx.1, exact_pos hy.2 hy.1, ?_, (level_le_of_derive h).trans (by decide)⟩
  exact hratio ▸ (Config.checked_of_validate hvalidate).conversionRatio_pos

end Grid

end ZGrid
