import FaultCorrelation.Decimal.Rounding

/-! # Fixed-point text

`fixedText places num den` writes `num / den` with exactly `places` digits after the point, the
last one rounded by `roundHalfEven`.
-/

namespace FaultCorrelation.Decimal

/-- Pad a digit string with zeros in front. -/
def padLeft (width : Nat) (digits : List Char) : List Char :=
  List.replicate (width - digits.length) '0' ++ digits

/-- The text of a ratio with a fixed number of decimal places. -/
def fixedText (places num den : Nat) : String :=
  let scaled := roundHalfEven (num * pow10 places) den
  let whole := Nat.toDigits 10 (scaled / pow10 places)
  let fraction := padLeft places (Nat.toDigits 10 (scaled % pow10 places))
  if places = 0 then String.ofList whole else String.ofList (whole ++ '.' :: fraction)

end FaultCorrelation.Decimal
