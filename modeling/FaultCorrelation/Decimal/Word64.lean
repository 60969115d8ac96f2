/-! # Integers of 64 bits

Integers are unbounded in the library. Where a record or a clock holds 64 bits, these bounds say
which integers it can hold. Differences of such integers may take one bit more and wrap around then.
-/

namespace FaultCorrelation.Word64

/-- The least signed integer of 64 bits. -/
def minSigned : Int := -9223372036854775808

/-- The greatest signed integer of 64 bits. -/
def maxSigned : Int := 9223372036854775807

/-- The greatest unsigned integer of 64 bits. -/
def maxUnsigned : Int := 18446744073709551615

/-- Whether an integer fits 64 bits with a sign. -/
def isSigned (n : Int) : Bool := decide (minSigned ≤ n ∧ n ≤ maxSigned)

/-- Whether an integer fits 64 bits without a sign. -/
def isUnsigned (n : Int) : Bool := decide (0 ≤ n ∧ n ≤ maxUnsigned)

/-- The bounds are powers of two, less one above. -/
theorem bounds_eq :
    minSigned = -Nat.pow 2 63 ∧ maxSigned = Nat.pow 2 63 - 1 ∧ maxUnsigned = Nat.pow 2 64 - 1 := by
  decide

/-- The difference of two signed integers of 64 bits, in 64 bits. -/
def sub (a b : Int) : Int := (a - b).bmod 18446744073709551616

theorem sub_of_isSigned {a b : Int} (fits : isSigned (a - b) = true) : sub a b = a - b := by
  rw [isSigned, decide_eq_true_eq, minSigned, maxSigned] at fits
  rw [sub, Int.bmod_def]
  omega

theorem natAbs_sub_comm (a b : Int) : (sub a b).natAbs = (sub b a).natAbs := by
  rw [sub, sub, Int.bmod_def, Int.bmod_def]
  omega

end FaultCorrelation.Word64
