import FaultCorrelation.Json.Basic
import FaultCorrelation.Decimal.Binary64
import FaultCorrelation.Decimal.Word64
import Std.Data.ExtTreeMap

/-! # Decoding records from documents

A decoder visits a document in the order it was written and answers with a value or with the kind
of the first thing that is wrong. `Fields` describes a record by its fields; `Fields.decode` reads
it from an object, where order is free and unknown fields are passed over, or from an array that
lists the fields in their declared order.
-/

namespace FaultCorrelation

/-- What is wrong with a document. -/
inductive DecodeFault where
  /-- The text is not JSON at a place that had to be read. -/
  | malformed
  /-- The JSON is sound, but not the record asked for. -/
  | unfit
  deriving DecidableEq, Repr

/-- A reading of documents as values of `α`. -/
abbrev Decoder (γ α : Type) := Document γ → Except DecodeFault α

namespace Document

variable {γ : Type} [Mark γ]

mutual
/-- Pass over a value nobody asked for. Only a place that blocks reading is a fault. -/
def skip : Document γ → Except DecodeFault Unit
  | .list items => skipItems items
  | .object fields cut => do
    skipFields fields
    if cut.any Mark.blocks then .error .malformed else .ok ()
  | .gap mark => if Mark.blocks mark then .error .malformed else .ok ()
  | _ => .ok ()

/-- `skip` on the items of an array. -/
def skipItems : List (Document γ) → Except DecodeFault Unit
  | [] => .ok ()
  | item :: rest => do
    item.skip
    skipItems rest

/-- `skip` on the fields of an object. -/
def skipFields : List (String × Document γ) → Except DecodeFault Unit
  | [] => .ok ()
  | (_, value) :: rest => do
    value.skip
    skipFields rest
end

end Document

namespace Decoder

variable {γ α : Type}

/-- The fault of a document that was expected to be something else. -/
def mismatch : Decoder γ α
  | .gap _ => .error .malformed
  | _ => .error .unfit

/-- A string. -/
def text : Decoder γ String
  | .text value => .ok value
  | other => mismatch other

/-- A Boolean. -/
def bool : Decoder γ Bool
  | .bool value => .ok value
  | other => mismatch other

/-- An integer that passes a test. -/
def intWhere (test : Int → Bool) : Decoder γ Int
  | .int value => if test value then .ok value else .error .unfit
  | other => mismatch other

/-- A signed 64-bit integer. -/
def int64 : Decoder γ Int := intWhere Word64.isSigned

/-- An unsigned 64-bit integer. -/
def nat64 : Decoder γ Nat := fun document =>
  (intWhere Word64.isUnsigned document).map Int.toNat

/-- A binary64 number; an integer stands for the number nearest to it. -/
def float : Decoder γ Float
  | .float value => .ok value
  | .int value => .ok (Decimal.Binary64.ofInt value)
  | other => mismatch other

/-- A value or null. -/
def optional (decode : Decoder γ α) : Decoder γ (Option α)
  | .null => .ok none
  | other => (decode other).map some

/-- An array. -/
def list (decode : Decoder γ α) : Decoder γ (List α)
  | .list items => items.mapM decode
  | other => mismatch other

/-- Decode the fields of an object into a map; a later value replaces an earlier one. -/
def entries (decode : Decoder γ α) (fields : List (String × Document γ)) :
    Except DecodeFault (Std.ExtTreeMap String α) :=
  fields.foldlM (fun done field => do
    let value ← decode field.2
    return done.insert field.1 value) ∅

/-- An object as a map from names to values. -/
def map (decode : Decoder γ α) : Decoder γ (Std.ExtTreeMap String α)
  | .object fields cut => do
    let done ← entries decode fields
    if cut.isSome then .error .malformed else .ok done
  | other => mismatch other

/-- One of a list of words, as a string or as the only field of an object, with the value null. -/
def word (words : List (String × α)) : Decoder γ α
  | .text name => (words.lookup name).elim (.error .unfit) .ok
  | .object ((name, value) :: rest) cut =>
    match words.lookup name, value with
    | none, _ => .error .unfit
    | some meaning, .null =>
      if rest.isEmpty && cut.isNone then .ok meaning else .error .malformed
    | some _, other => mismatch other
  | _ => .error .malformed

end Decoder

/-- How a record was written. -/
inductive RecordForm where
  | named
  | positional
  deriving DecidableEq, Repr

/-- The fields of a record in declared order, and how to build the record from them. -/
structure Fields (γ α : Type) where
  /-- Each field with a check of its value. -/
  known : List (String × Decoder γ Unit)
  build : RecordForm → (String → Option (Document γ)) → Except DecodeFault α

namespace Fields

variable {γ α β : Type}

/-- One field; `missing` answers for a record that does not have it. -/
def field (name : String) (decode : Decoder γ α)
    (missing : RecordForm → Except DecodeFault α) : Fields γ α where
  known := [(name, fun document => (decode document).map fun _ => ())]
  build form find := (find name).elim (missing form) decode

/-- A field that has to be there. -/
def required (name : String) (decode : Decoder γ α) : Fields γ α :=
  field name decode fun _ => .error .unfit

/-- A field with a default. -/
def defaulted (name : String) (decode : Decoder γ α) (fallback : α) : Fields γ α :=
  field name decode fun _ => .ok fallback

/-- A field that may be missing or null. -/
def optional (name : String) (decode : Decoder γ α) : Fields γ (Option α) :=
  defaulted name (Decoder.optional decode) none

/-- A field that may be null, and missing only where fields are named. -/
def nullable (name : String) (decode : Decoder γ α) : Fields γ (Option α) :=
  field name (Decoder.optional decode) fun form =>
    if form = .named then .ok none else .error .unfit

/-- No fields. -/
protected def pure (value : α) : Fields γ α := ⟨[], fun _ _ => .ok value⟩

/-- The fields of two parts of a record, one after the other. -/
protected def seq (first : Fields γ (α → β)) (second : Fields γ α) : Fields γ β where
  known := first.known ++ second.known
  build form find := do
    let make ← first.build form find
    let value ← second.build form find
    return make value

instance : Applicative (Fields γ) where
  pure := Fields.pure
  seq first second := Fields.seq first (second ())

variable [Mark γ]

/-- Check the fields of an object as written: a known field at most once and with a fitting value,
an unknown one only for being readable. -/
def checkFields (known : List (String × Decoder γ Unit)) :
    (seen : List String) → List (String × Document γ) → Except DecodeFault Unit
  | _, [] => .ok ()
  | seen, (name, value) :: rest =>
    match known.lookup name with
    | none => do
      value.skip
      checkFields known seen rest
    | some check =>
      if seen.contains name then .error .unfit
      else do
        check value
        checkFields known (name :: seen) rest

/-- Check the items of an array against the declared fields. -/
def checkItems : List (String × Decoder γ Unit) → List (Document γ) → Except DecodeFault Unit
  | _, [] => .ok ()
  | [], _ :: _ => .error .malformed
  | (_, check) :: known, item :: rest => do
    check item
    checkItems known rest

/-- Decode a record. -/
def decode (fields : Fields γ α) : Decoder γ α
  | .object entries cut => do
    checkFields fields.known [] entries
    if cut.isSome then .error .malformed else
    fields.build .named fun name => entries.lookup name
  | .list items => do
    checkItems fields.known items
    fields.build .positional fun name => ((fields.known.map Prod.fst).zip items).lookup name
  | other => Decoder.mismatch other

end Fields

/-- A way of reading the parts of a record: what its scalars may be written as, and what a record
may hold besides its fields. -/
structure DecodingStyle (γ : Type) where
  text : Decoder γ String
  int64 : Decoder γ Int
  nat64 : Decoder γ Nat
  float : Decoder γ Float
  record : {α : Type} → Fields γ α → Decoder γ α

/-- Every scalar is written as what it is. -/
def DecodingStyle.strict {γ : Type} [Mark γ] : DecodingStyle γ :=
  { text := Decoder.text, int64 := Decoder.int64, nat64 := Decoder.nat64, float := Decoder.float
    record := Fields.decode }

end FaultCorrelation
