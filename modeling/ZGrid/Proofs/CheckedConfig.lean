import Mathlib.Data.Option.Basic
import Mathlib.Tactic.SplitIfs
import ZGrid.Config

/-!
# Proofs/CheckedConfig — the numbers of a configuration without faults

```
   columns ──▸ finite numbers ──▸ origin ──▸ size of a cell ──▸ ratio ──▸ longitudes ──▸ latitudes
```

The faults of a configuration are looked for one after the other.  One that has none has passed
every check on the way (`checked_of_validate`).
-/

namespace ZGrid.Config

variable {config : Config}

/-- What the checks leave of the numbers of a configuration. -/
structure Checked (config : Config) : Prop where
  /-- All of them are finite. -/
  isFinite : ∀ parameter ∈ config.parameters, Float64.isFinite parameter.2 = true
  /-- The origin is not a pole. -/
  originLatitude : ¬ config.originLatitude ≤ -90 ∧ ¬ config.originLatitude ≥ 90
  /-- A cell has an edge. -/
  gridSize : ¬ config.gridSize ≤ 0
  /-- The ratio is positive. -/
  conversionRatio_pos : 0 < config.conversionRatio
  /-- The box has a width, -/
  longitudes : ¬ config.minLongitude ≥ config.maxLongitude
  /-- and a height. -/
  latitudes : ¬ config.minLatitude ≥ config.maxLatitude

/-- A configuration without faults has no fault among its numbers. -/
theorem numberFault?_of_validate (h : config.validate = .ok ()) : config.numberFault? = none := by
  rw [validate] at h
  cases hfault : config.fault? with
  | some fault =>
    rw [hfault] at h
    cases h
  | none =>
    rw [fault?, Option.orElse_eq_none] at hfault
    exact hfault.2

/-- **The numbers of a configuration without faults have passed every check.** -/
theorem checked_of_validate (h : config.validate = .ok ()) : config.Checked := by
  have hnumber := numberFault?_of_validate h
  rw [numberFault?] at hnumber
  split at hnumber
  · cases hnumber
  · rename_i hfind
    split_ifs at hnumber with horigin hsize hratio hlongitude hlatitude
    rw [Bool.or_eq_true, decide_eq_true_iff, decide_eq_true_iff, not_or] at horigin
    refine ⟨fun parameter hmem => ?_, horigin, hsize, Int64.not_le.mp hratio, hlongitude,
      hlatitude⟩
    simpa using List.find?_eq_none.mp hfind _ hmem

end ZGrid.Config
