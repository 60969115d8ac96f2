import FaultCorrelation.Decimal.Plain
import FaultCorrelation.Decimal.Shortest
import FaultCorrelation.Json.Decoding

/-! # Coerced scalars

Settings may be written in other types than their own: the environment knows only texts, and a text
that looks like a number or a truth value has become one before it is known what is wanted. A
coerced decoder takes whatever can be understood. Null never stands for a value, and neither do
lists and tables.
-/

namespace FaultCorrelation.Coercion

/-- The truth value that a word stands for. -/
def truthOf? (text : String) : Option Bool :=
  let word := String.ofList (text.toList.map Char.toLower)
  if word == "true" || word == "on" || word == "yes" then some true
  else if word == "false" || word == "off" || word == "no" then some false
  else none

/-- A value, or the fault of not being understood. -/
def understood {α : Type} (value : Option α) : Except DecodeFault α :=
  value.elim (.error .unfit) .ok

/-- A signed 64-bit integer. A float is rounded, a half away from zero, and clamped. -/
def int64 : Decoder Empty Int
  | .bool value => .ok (if value then 1 else 0)
  | .int value => if Word64.isSigned value then .ok value else .error .unfit
  | .float value => .ok value.round.toInt64.toInt
  | .text value =>
    match truthOf? value with
    | some truth => .ok (if truth then 1 else 0)
    | none => understood (Decimal.plainInt64? value)
  | _ => .error .unfit

/-- An unsigned 64-bit integer. A float is rounded, a half away from zero, and clamped. -/
def nat64 : Decoder Empty Nat
  | .bool value => .ok value.toNat
  | .int value => if Word64.isUnsigned value then .ok value.toNat else .error .unfit
  | .float value => .ok value.round.toUInt64.toNat
  | .text value =>
    match truthOf? value with
    | some truth => .ok truth.toNat
    | none => understood (Decimal.plainNat64? value)
  | _ => .error .unfit

/-- An unsigned 16-bit integer. -/
def nat16 : Decoder Empty Nat := fun document => do
  let value ← nat64 document
  if value < UInt16.size then return value else .error .unfit

/-- A binary64 number. -/
def float : Decoder Empty Float
  | .bool value => .ok (if value then 1.0 else 0.0)
  | .int value => .ok (Decimal.Binary64.ofInt value)
  | .float value => .ok value
  | .text value =>
    match truthOf? value with
    | some truth => .ok (if truth then 1.0 else 0.0)
    | none => understood (Decimal.plainFloat? value)
  | _ => .error .unfit

/-- A text. -/
def text : Decoder Empty String
  | .bool value => .ok (if value then "true" else "false")
  | .int value => .ok (toString value)
  | .float value => .ok (Decimal.shortestText value)
  | .text value => .ok value
  | _ => .error .unfit

/-- A record. A list that is longer than the record has fields is cut. -/
def record {α : Type} (fields : Fields Empty α) : Decoder Empty α
  | .list items => fields.decode (.list (items.take fields.known.length))
  | other => fields.decode other

/-- The style in which settings are read. -/
def style : DecodingStyle Empty := { text, int64, nat64, float, record := record }

end FaultCorrelation.Coercion
