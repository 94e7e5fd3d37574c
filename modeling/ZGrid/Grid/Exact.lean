import ZGrid.Grid

/-!
# Grid/Exact — grids over the fractions

Over the fractions nothing is rounded: a cell is exactly as wide as the grid says, and halving the
box of a grid ends on the sides of its cells.
-/

namespace ZGrid

/-- The midpoint of two fractions. -/
instance : Midpoint Rat := ⟨fun a b => a + (b - a) / 2⟩

/-- The whole number nearest to a fraction, a half going away from zero. -/
def roundFraction (x : Rat) : Int :=
  if 0 ≤ x then (x + 1 / 2).floor else -(-x + 1 / 2).floor

instance : Degrees Rat where
  ofInt n := n
  floor x := Int64.ofIntClamp x.floor
  round x := Int64.ofIntClamp (roundFraction x)
  isFinite _ := true
  isZero x := x == 0

end ZGrid
