import FaultCorrelation.Decimal.Binary64
import FaultCorrelation.Decimal.Digits
import FaultCorrelation.Decimal.Word64

/-! # Numbers in plain text

Integers and binary64 numbers as people write them: with a sign of either kind, leading zeros, and a
point that needs digits on one side only. Nothing may stand around a number, not even a blank.
-/

namespace FaultCorrelation.Decimal

/-- The integer a text stands for. -/
def plainInt? (text : String) : Option Int :=
  let (negative, digits) := takeSign text.toList
  if digits.isEmpty || !digits.all Char.isDigit then none
  else
    let size := (digitsValue digits : Int)
    some (if negative then -size else size)

/-- The signed 64-bit integer a text stands for. -/
def plainInt64? (text : String) : Option Int :=
  (plainInt? text).filter Word64.isSigned

/-- The unsigned 64-bit integer a text stands for. No minus is taken, not even in front of zero. -/
def plainNat64? (text : String) : Option Nat :=
  if text.startsWith '-' then none
  else ((plainInt? text).filter Word64.isUnsigned).map Int.toNat

/-- The number of the digits on both sides of a point and an exponent. Where the result is out of
range it is infinite. -/
def plainFinite? (negative : Bool) (cs : List Char) : Option Float := do
  let (whole, rest) := takeDigits cs
  let (fraction, rest) :=
    match rest with
    | '.' :: rest => takeDigits rest
    | rest => ([], rest)
  if whole.isEmpty && fraction.isEmpty then none
  else
    let (exponent, rest) ← exponent? rest
    if !rest.isEmpty then none
    else
      let digits := whole ++ fraction
      some ((Binary64.ofScientific? negative (digitsValue digits) digits.length
        (exponent.getD 0 - fraction.length)).getD
          (if negative then -1.0 / 0.0 else 1.0 / 0.0))

/-- The binary64 number a text stands for; the names of infinity and of what is not a number are
taken in either case. -/
def plainFloat? (text : String) : Option Float :=
  let (negative, cs) := takeSign text.toList
  let name := String.ofList (cs.map Char.toLower)
  if name == "inf" || name == "infinity" then some (if negative then -1.0 / 0.0 else 1.0 / 0.0)
  else if name == "nan" then some (0.0 / 0.0)
  else plainFinite? negative cs

end FaultCorrelation.Decimal
