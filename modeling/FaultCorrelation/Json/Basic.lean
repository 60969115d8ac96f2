/-! # JSON documents

A `Document γ` is a JSON value in which places that could not be read are marked by values of `γ`.
`Json` is the complete case: no place can be marked. What a text yields as far as it can be read
is a `Document Gap`; `Document.complete?` turns one without marks into `Json`.

Objects keep their fields in the order they were written, repeated names included.
-/

namespace FaultCorrelation

/-- A JSON value with unreadable places marked by `γ`. A number is an integer when it was written
as one and fits 64 bits, otherwise a binary64 number. -/
inductive Document (γ : Type) where
  | null
  | bool (value : Bool)
  | int (value : Int)
  | float (value : Float)
  | text (value : String)
  | list (items : List (Document γ))
  /-- `cut` marks an object that has no readable field beyond those listed. -/
  | object (fields : List (String × Document γ)) (cut : Option γ)
  | gap (mark : γ)
  deriving Inhabited

/-- A complete JSON value. -/
abbrev Json := Document Empty

/-- Why a place in a text has no value. -/
inductive Gap where
  /-- The text ended or broke the grammar: nothing after this place was read. -/
  | stopped
  /-- A literal is well-formed but stands for nothing: a number out of range, or an escape that is
  no character. Reading went on behind it. -/
  | valueless
  deriving DecidableEq, Repr

/-- Marks that tell whether reading can go past them. -/
class Mark (γ : Type) where
  blocks : γ → Bool

instance : Mark Empty := ⟨Empty.elim⟩
instance : Mark Gap := ⟨fun mark => mark == .stopped⟩

namespace Document

variable {γ : Type}

/-- An object that was read to its end. -/
def record (fields : List (String × Document γ)) : Document γ := .object fields none

/-- A binary64 number as a value. JSON has no literal for infinities and for what is not a number;
`null` stands for them. -/
def ofFloat (value : Float) : Document γ := if value.isFinite then .float value else .null

/-- Insert a field by name order; a later value replaces an earlier one of the same name. -/
def putField (name : String) (value : Document γ) :
    List (String × Document γ) → List (String × Document γ)
  | [] => [(name, value)]
  | (other, old) :: rest =>
    if name < other then (name, value) :: (other, old) :: rest
    else if name = other then (name, value) :: rest
    else (other, old) :: putField name value rest

mutual
/-- The value of a document without marks. Each object has its names once, in order; the last value
written for a name counts. -/
def complete? : Document γ → Option Json
  | .null => some .null
  | .bool value => some (.bool value)
  | .int value => some (.int value)
  | .float value => some (.float value)
  | .text value => some (.text value)
  | .list items => (completeItems? items).map .list
  | .object fields none => (completeFields? fields []).map record
  | .object _ (some _) => none
  | .gap _ => none

/-- `complete?` on the items of an array. -/
def completeItems? : List (Document γ) → Option (List Json)
  | [] => some []
  | item :: rest => do
    let head ← item.complete?
    let tail ← completeItems? rest
    some (head :: tail)

/-- `complete?` on the fields of an object, gathering them in order. -/
def completeFields? : List (String × Document γ) → List (String × Json) →
    Option (List (String × Json))
  | [], done => some done
  | (name, value) :: rest, done => do
    let value ← value.complete?
    completeFields? rest (putField name value done)
end

/-- The value of a field, if the document is an object that has it. -/
def field? (name : String) : Document γ → Option (Document γ)
  | .object fields _ => fields.lookup name
  | _ => none

end Document
end FaultCorrelation
