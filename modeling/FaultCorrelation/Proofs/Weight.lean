import Mathlib.Algebra.Order.Ring.Rat
import Mathlib.Tactic.Linarith
import FaultCorrelation.Weight

/-! # Weights that add up in order

What is proved of distances is proved for two kinds of weights. Ordered weights are compared by a
total order that addition respects, also where sums are rounded. Exact weights moreover add up to
the same sum in every order. The rationals are exact.
-/

namespace FaultCorrelation.Weight

variable {W : Type}

/-- Weights in a total order that addition respects. -/
class IsOrdered (W : Type) [Weight W] : Prop where
  le_trans {a b c : W} : a ≤ b → b ≤ c → a ≤ c
  le_antisymm {a b : W} : a ≤ b → b ≤ a → a = b
  le_total (a b : W) : a ≤ b ∨ b ≤ a
  lt_iff {a b : W} : a < b ↔ ¬ b ≤ a
  add_le_add {a b : W} (c : W) : a ≤ b → a + c ≤ b + c
  le_add {a c : W} : 0 ≤ c → a ≤ a + c

/-- Ordered weights whose sums do not depend on the order of the summands. -/
class IsExact (W : Type) [Weight W] : Prop extends IsOrdered W where
  add_assoc (a b c : W) : a + b + c = a + (b + c)
  add_comm (a b : W) : a + b = b + a
  zero_add (a : W) : 0 + a = a

section Ordered

variable [Weight W] [IsOrdered W] {a b : W}

theorem le_refl (a : W) : a ≤ a := (IsOrdered.le_total a a).elim id id

theorem le_of_lt (less : a < b) : a ≤ b :=
  (IsOrdered.le_total a b).resolve_right (IsOrdered.lt_iff.mp less)

theorem le_of_not_lt (notLess : ¬ a < b) : b ≤ a :=
  Decidable.not_not.mp fun above => notLess (IsOrdered.lt_iff.mpr above)

theorem le_larger_left (a b : W) : a ≤ larger a b := by
  rw [larger]
  split
  · rename_i less
    exact le_of_lt less
  · exact le_refl a

theorem le_larger_right (a b : W) : b ≤ larger a b := by
  rw [larger]
  split
  · exact le_refl b
  · rename_i notLess
    exact le_of_not_lt notLess

omit [IsOrdered W] in
theorem larger_eq (a b : W) : larger a b = a ∨ larger a b = b := by
  rw [larger]
  split
  · exact .inr rfl
  · exact .inl rfl

end Ordered

/-- Rational weights. -/
instance : Weight ℚ where
  decidableLT := inferInstance
  decidableLE := inferInstance
  usable x := decide (0 ≤ x)
  noPath := 2147483647
  round x := if 0 ≤ x then (x + 1 / 2).floor else -(-x + 1 / 2).floor

instance : IsExact ℚ where
  le_trans first second := first.trans second
  le_antisymm first second := first.antisymm second
  le_total _ _ := Rat.le_total
  lt_iff := Rat.not_le.symm
  add_le_add _ := Rat.add_le_add_right.mpr
  le_add positive := le_add_of_nonneg_right positive
  add_assoc := Rat.add_assoc
  add_comm := Rat.add_comm
  zero_add := Rat.zero_add

end FaultCorrelation.Weight
