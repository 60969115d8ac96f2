import FaultCorrelation.Decimal.Binary64

/-! # Shortest positional text of a binary64 number

The text has the fewest significant digits that read back to the same number; among those the
digits nearest to it, and of two equally near candidates the larger. It is always positional, and
a whole number has no fraction part.
-/

namespace FaultCorrelation.Decimal

/-- The reals that round to one binary64 number, over a common denominator. -/
structure RoundingInterval where
  low : Nat
  value : Nat
  high : Nat
  den : Nat
  /-- Whether the two ends round to the number as well. -/
  closed : Bool

namespace RoundingInterval

/-- The neighbourhood of a positive number. Below a power of two the grid is twice as fine. -/
def ofDyadic (x : Dyadic) : RoundingInterval :=
  let below := if x.mantissa = pow2 52 ∧ Dyadic.finestStep < x.exponent then 1 else 2
  let scale := Dyadic.ratio ⟨1, x.exponent - 2⟩
  { low := (4 * x.mantissa - below) * scale.1
    value := 4 * x.mantissa * scale.1
    high := (4 * x.mantissa + 2) * scale.1
    den := scale.2
    closed := x.mantissa % 2 = 0 }

/-- Whether `num / den` lies in the interval. -/
def contains (interval : RoundingInterval) (num den : Nat) : Bool :=
  let low := interval.low * den
  let high := interval.high * den
  let point := num * interval.den
  if interval.closed then decide (low ≤ point ∧ point ≤ high)
  else decide (low < point ∧ point < high)

/-- The number of digits before the decimal point; not positive for a number below one tenth. -/
def pointPosition (interval : RoundingInterval) : Int :=
  let bound (p : Int) : Bool :=
    decide (interval.value * pow10 (-p).toNat < interval.den * pow10 p.toNat)
  let guess : Int :=
    ((interval.value.log2 : Int) - (interval.den.log2 : Int)) * 30103 / 100000
  let candidates := [guess - 1, guess, guess + 1, guess + 2]
  (candidates.find? bound).getD (guess + 2)

/-- The point of the grid with `count` significant digits that reads back, nearest first. -/
def gridPoint? (interval : RoundingInterval) (position : Int) (count : Nat) : Option Nat :=
  let unit := position - count
  let num := pow10 unit.toNat
  let den := pow10 (-unit).toNat
  let below := interval.value * den / (interval.den * num)
  let above := below + 1
  let fits (c : Nat) := interval.contains (c * num) den
  let twice := 2 * interval.value * den
  let middle := (below + above) * interval.den * num
  match fits below, fits above with
  | true, true => some (if twice < middle then below else above)
  | true, false => some below
  | false, true => some above
  | false, false => none

/-- Search the grids of `count`, `count + 1`, … digits. -/
def search (interval : RoundingInterval) (position : Int) : (grids count : Nat) → Nat × Nat
  | 0, count => (interval.value * pow10 (count - position).toNat / interval.den, count)
  | grids + 1, count =>
    match interval.gridPoint? position count with
    | some digits => (digits, count)
    | none => interval.search position grids (count + 1)

end RoundingInterval

/-- Digits written with a decimal point after the first `position` of them. -/
def positional (digits : List Char) (position : Int) : String :=
  let whole := position.toNat
  if position ≤ 0 then
    String.ofList ('0' :: '.' :: (List.replicate (-position).toNat '0' ++ digits))
  else if digits.length ≤ whole then
    String.ofList (digits ++ List.replicate (whole - digits.length) '0')
  else String.ofList (digits.take whole ++ '.' :: digits.drop whole)

/-- Drop the zeros at the end of a digit string. -/
def dropTrailingZeros (digits : List Char) : List Char :=
  (digits.reverse.dropWhile (· == '0')).reverse

/-- Shortest text of a positive number; seventeen digits always suffice. -/
def shortestPositive (x : Dyadic) : String :=
  let interval := RoundingInterval.ofDyadic x
  let position := interval.pointPosition
  let (digits, count) := interval.search position 17 1
  let written := Nat.toDigits 10 digits
  -- rounding up to the next power of ten adds a digit
  let position := position + ((written.length : Int) - count)
  positional (dropTrailingZeros written) position

/-- Shortest text of any binary64 number. -/
def Binary64.text : Binary64 → String
  | .notANumber => "NaN"
  | .infinite false => "inf"
  | .infinite true => "-inf"
  | .finite negative magnitude =>
    let body := if magnitude.mantissa = 0 then "0" else shortestPositive magnitude
    if negative then "-" ++ body else body

/-- Shortest text of a machine number. -/
def shortestText (x : Float) : String := (Binary64.ofFloat x).text

end FaultCorrelation.Decimal
