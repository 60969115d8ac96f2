import FaultCorrelation.Decimal.Binary64

/-! # Edge weights

`Weight W` collects what the correlation needs of the numbers on the edges of the topology:
addition along a path, comparison, the test that admits a weight to the graph, and the distance
that stands for "no path". The engine runs on binary64 numbers; nothing in it depends on more of
their arithmetic than this class.
-/

namespace FaultCorrelation

/-- Numbers that can weigh edges and add up to distances. -/
class Weight (W : Type) extends Zero W, Add W, LT W, LE W where
  decidableLT : DecidableLT W
  decidableLE : DecidableLE W
  /-- Whether an edge may carry the weight: it is finite and not negative. -/
  usable : W → Bool
  /-- The distance between resources that no path joins. -/
  noPath : W
  /-- The nearest integer; a half goes away from zero. -/
  round : W → Int

attribute [reducible] Weight.decidableLT Weight.decidableLE
attribute [instance] Weight.decidableLT Weight.decidableLE

/-- The larger of two distances. -/
def Weight.larger {W : Type} [Weight W] (a b : W) : W := if a < b then b else a

/-- Binary64 weights. Rounding stays within 64 bits. -/
instance : Weight Float where
  zero := 0.0
  decidableLT := inferInstance
  decidableLE := inferInstance
  usable x := x.isFinite && decide (0.0 ≤ x)
  noPath := 2147483647.0
  round x := x.round.toInt64.toInt

end FaultCorrelation
