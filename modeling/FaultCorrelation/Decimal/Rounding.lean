/-! # Rounding a ratio of natural numbers

`roundHalfEven` is the one rounding rule of the library. `Dyadic.nearest` applies it to the grid of
binary64 numbers: 53 significant bits, and no step finer than `2 ^ (-1074)`. Everything here is
exact natural-number arithmetic; machine floating point enters only in `Decimal.Binary64`.
-/

namespace FaultCorrelation.Decimal

/-- The power of two of an exponent. -/
def pow2 (n : Nat) : Nat := Nat.pow 2 n

/-- The power of ten of an exponent. -/
def pow10 (n : Nat) : Nat := Nat.pow 10 n

/-- The integer nearest to `num / den`; a half goes to the even neighbour. -/
def roundHalfEven (num den : Nat) : Nat :=
  let quotient := num / den
  let twice := 2 * (num % den)
  if twice < den then quotient
  else if den < twice then quotient + 1
  else quotient + quotient % 2

/-- The number `mantissa * 2 ^ exponent`. -/
structure Dyadic where
  mantissa : Nat
  exponent : Int
  deriving DecidableEq, Repr

namespace Dyadic

/-- A dyadic number as a fraction whose denominator is a power of two. -/
def ratio (x : Dyadic) : Nat × Nat :=
  (x.mantissa * pow2 x.exponent.toNat, pow2 (-x.exponent).toNat)

/-- The exponent of the leading bit of `num / den`, for positive arguments. -/
def leadingBit (num den : Nat) : Int :=
  let guess : Int := (num.log2 : Int) - (den.log2 : Int)
  if num * pow2 (-guess).toNat < den * pow2 guess.toNat then guess - 1 else guess

/-- The finest binary64 step. -/
def finestStep : Int := -1074

/-- The binary64 number nearest to `num / den`, before any check against overflow. -/
def nearest (num den : Nat) : Dyadic :=
  if num = 0 then ⟨0, finestStep⟩
  else
    let step := max (leadingBit num den - 52) finestStep
    ⟨roundHalfEven (num * pow2 (-step).toNat) (den * pow2 step.toNat), step⟩

/-- The quotient by a natural number, rounded to binary64. -/
def divNat (x : Dyadic) (divisor : Nat) : Dyadic :=
  nearest x.ratio.1 (x.ratio.2 * divisor)

end Dyadic
end FaultCorrelation.Decimal
