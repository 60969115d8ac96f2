import FaultCorrelation.Json.Basic
import FaultCorrelation.Decimal.Shortest

/-! # Writing JSON text

`Document.render` writes a complete value without blanks. Only the quote, the backslash and the
control characters of a string are escaped. A binary64 number is written with a point, so that it is
read back as one; there is no literal for infinities and for what is not a number, and `null` stands
for them.
-/

namespace FaultCorrelation

namespace Printing

/-- A hexadecimal digit. -/
def hexDigit (n : Nat) : Char := Nat.digitChar (n % 16)

/-- A character inside a string literal. -/
def escaped (c : Char) : List Char :=
  if c = '"' then ['\\', '"']
  else if c = '\\' then ['\\', '\\']
  else if c.toNat < 32 then
    ['\\', 'u', '0', '0', hexDigit (c.toNat / 16), hexDigit c.toNat]
  else [c]

/-- A string literal. -/
def quoted (text : String) : String :=
  String.ofList ('"' :: (text.toList.flatMap escaped ++ ['"']))

/-- A binary64 number. -/
def number (x : Float) : String :=
  if x.isFinite then
    let digits := Decimal.shortestText x
    if '.' ∈ digits.toList then digits else digits ++ ".0"
  else "null"

end Printing

open Printing

mutual
/-- The text of a value. -/
def Document.render : Json → String
  | .null => "null"
  | .bool value => if value then "true" else "false"
  | .int value => toString value
  | .float value => number value
  | .text value => quoted value
  | .list items => "[" ++ renderItems items ++ "]"
  | .object fields none => "\x7b" ++ renderFields fields ++ "\x7d"
  | .object _ (some mark) => mark.elim
  | .gap mark => mark.elim

/-- The items of an array, with commas between them. -/
def Document.renderItems : List Json → String
  | [] => ""
  | [item] => Document.render item
  | item :: rest => Document.render item ++ "," ++ renderItems rest

/-- The fields of an object, with commas between them. -/
def Document.renderFields : List (String × Json) → String
  | [] => ""
  | [(name, value)] => quoted name ++ ":" ++ Document.render value
  | (name, value) :: rest =>
    quoted name ++ ":" ++ Document.render value ++ "," ++ renderFields rest
end

end FaultCorrelation
