import FaultCorrelation.Decimal.Rounding

/-! # Binary64 numbers, taken apart and put together

A `Float` is decoded into sign, mantissa and exponent, and built back from the nearest dyadic
number. `ofRatio?` and `ofScientific?` are correctly rounded for every argument and answer `none`
where the result would be infinite.
-/

namespace FaultCorrelation.Decimal

/-- What a binary64 word stands for. -/
inductive Binary64 where
  | finite (negative : Bool) (magnitude : Dyadic)
  | infinite (negative : Bool)
  | notANumber
  deriving DecidableEq, Repr

namespace Binary64

/-- Decode the sign bit, the eleven exponent bits and the 52 fraction bits of a word. -/
def ofBits (bits : UInt64) : Binary64 :=
  let word := bits.toNat
  let negative := decide (pow2 63 ≤ word)
  let exponent : Nat := word / pow2 52 % pow2 11
  let fraction := word % pow2 52
  if exponent = 2047 then
    if fraction = 0 then .infinite negative else .notANumber
  else if exponent = 0 then .finite negative ⟨fraction, Dyadic.finestStep⟩
  else .finite negative ⟨pow2 52 + fraction, Int.ofNat exponent - 1075⟩

/-- Decode a machine number. -/
def ofFloat (x : Float) : Binary64 := ofBits x.toBits

/-- The word of a dyadic number with a binary64 mantissa, unless it is out of range. The exponent
field and the mantissa simply add up, also where rounding carried into the next power of two. -/
def bits? (negative : Bool) (x : Dyadic) : Option UInt64 :=
  let word := x.mantissa + (x.exponent - Dyadic.finestStep).toNat * pow2 52
  if word < 2047 * pow2 52 then some (UInt64.ofNat (word + if negative then pow2 63 else 0))
  else none

/-- The machine number nearest to plus or minus `num / den`. -/
def ofRatio? (negative : Bool) (num den : Nat) : Option Float :=
  (bits? negative (Dyadic.nearest num den)).map Float.ofBits

/-- The machine number nearest to plus or minus `digits * 10 ^ exponent`, where `digits` has
`length` decimal digits. Far outside the range the powers of ten are not formed at all. -/
def ofScientific? (negative : Bool) (digits length : Nat) (exponent : Int) : Option Float :=
  if digits = 0 then ofRatio? negative 0 1
  else if 400 < exponent then none
  else if exponent + length < -400 then ofRatio? negative 0 1
  else ofRatio? negative (digits * pow10 exponent.toNat) (pow10 (-exponent).toNat)

/-- The machine number nearest to an integer. -/
def ofInt (n : Int) : Float :=
  (ofRatio? (decide (n < 0)) n.natAbs 1).getD (if n < 0 then -1.0 / 0.0 else 1.0 / 0.0)

/-- The machine number nearest to a natural number. -/
def ofNat (n : Nat) : Float := ofInt n

end Binary64
end FaultCorrelation.Decimal
