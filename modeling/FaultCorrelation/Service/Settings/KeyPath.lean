import FaultCorrelation.Json.Basic
import FaultCorrelation.Decimal.Digits
import FaultCorrelation.Decimal.Word64

/-! # Key paths

A `KeyPath` names a place in a tree of settings: the members and items that lead to it. Assigning a
value to a place makes whatever is missing on the way, and replaces what is in the way. A table that
is assigned is merged into the table that is there; any other value takes the place. Lists grow at
their end only: an item counted from the end of a list that is not that long has no place.

Names of members do not distinguish case: in a tree they are in lower case, and so is a text before
it is read as a path.
-/

namespace FaultCorrelation

/-- A step into a tree of settings. -/
inductive KeyStep where
  | member (name : String)
  /-- An item of a list; negative numbers count from the end. -/
  | item (index : Int)
  deriving DecidableEq, Repr

/-- The way to a place in a tree of settings; it starts at a member of the top table. -/
structure KeyPath where
  root : String
  steps : List KeyStep
  deriving DecidableEq, Repr

namespace KeyPath

/-- Whether a character may be part of a name. -/
def isNameChar (c : Char) : Bool :=
  c.isAlphanum || c == ' ' || c == '_' || c == '-'

/-- The name at the front of a text, and the text behind it. -/
def name? (cs : List Char) : Option (String × List Char) :=
  let name := cs.takeWhile isNameChar
  if name.isEmpty then none else some (String.ofList name, cs.dropWhile isNameChar)

/-- Drop the blanks in front of a text. -/
def skipBlanks (cs : List Char) : List Char := cs.dropWhile fun c => c == ' ' || c == '\t'

/-- The number of an item up to its closing bracket, and the text behind the bracket. A number
beyond the signed 64-bit range is none. -/
def index? (cs : List Char) : Option (Int × List Char) :=
  let (negative, cs) : Bool × List Char :=
    match skipBlanks cs with
    | '-' :: rest => (true, rest)
    | rest => (false, rest)
  let (digits, cs) := Decimal.takeDigits cs
  match digits, skipBlanks cs with
  | [], _ => none
  | digits, ']' :: rest =>
    let size := (Decimal.digitsValue digits : Int)
    let index := if negative then -size else size
    if Word64.isSigned index then some (index, rest) else none
  | _, _ => none

/-- The step at the front of a text, and the text behind it. -/
def step? : List Char → Option (KeyStep × List Char)
  | '.' :: rest => (name? rest).map fun (name, rest) => (.member name, rest)
  | '[' :: rest => (index? rest).map fun (index, rest) => (.item index, rest)
  | _ => none

/-- The steps that a text consists of. There are no more steps than characters. -/
def steps? : (fuel : Nat) → List Char → Option (List KeyStep)
  | _, [] => some []
  | 0, _ :: _ => none
  | fuel + 1, cs => do
    let (step, rest) ← step? cs
    let steps ← steps? fuel rest
    some (step :: steps)

/-- The path that a text stands for, if it stands for one. -/
def ofText? (text : String) : Option KeyPath := do
  let (root, rest) ← name? text.toList
  let steps ← steps? rest.length rest
  some { root, steps }

/-- A character in lower case. Beyond ASCII only the Kelvin sign matters: no other character has a
lower case within ASCII. -/
def lowerChar (c : Char) : Char := if c.toNat = 0x212a then 'k' else c.toLower

/-- A name in lower case. -/
def lowerName (name : String) : String := String.ofList (name.toList.map lowerChar)

/-- The path that a text stands for; any other text is the name of a member of the top table. -/
def ofText (text : String) : KeyPath :=
  let text := lowerName text
  (ofText? text).getD { root := text, steps := [] }

/-- No list has as many items. -/
def listLimit : Nat := 4294967296

/-- The place of an item in a list of a length, counted from the front. An index from the front may
lie behind the list, one from the end has to lie within it. -/
def place? (index : Int) (length : Nat) : Option Nat :=
  if 0 ≤ index then
    if index.toNat < listLimit then some index.toNat else none
  else if index.natAbs ≤ length then some (length - index.natAbs)
  else none

/-- The members of a table; anything else has none. -/
def membersOf : Json → List (String × Json)
  | .object members _ => members
  | _ => []

/-- The items of a list; anything else has none. -/
def itemsOf : Json → List Json
  | .list items => items
  | _ => []

mutual
/-- Assign a value to a member of a table. -/
def assignMember (name : String) (table : Json) : (value : Json) → Json
  | .object members _ =>
    let place := (table.field? (lowerName name)).getD (.record [])
    .record (Document.putField (lowerName name) (assignMembers place members) (membersOf table))
  | value => .record (Document.putField (lowerName name) value (membersOf table))

/-- Assign values to members of a table in order. -/
def assignMembers (table : Json) : List (String × Json) → Json
  | [] => table
  | (name, value) :: rest => assignMembers (assignMember name table value) rest
end

/-- Change one item of a list. A list that is too short grows at its end by nulls. -/
def modifyItem? (index : Int) (change : Json → Option Json) (list : Json) : Option Json := do
  let items := itemsOf list
  let place ← place? index items.length
  let item ← change ((items[place]?).getD .null)
  some (.list ((items ++ List.replicate (place + 1 - items.length) Document.null).set place item))

/-- Assign a value to the place that a step and further steps lead to, if there is one. -/
def assignAlong? (value : Json) : KeyStep → List KeyStep → Json → Option Json
  | .member name, [], table => some (assignMember name table value)
  | .item index, [], list => modifyItem? index (fun _ => some value) list
  | .member name, next :: rest, table => do
    let place ← assignAlong? value next rest ((table.field? (lowerName name)).getD .null)
    some (.record (Document.putField (lowerName name) place (membersOf table)))
  | .item index, next :: rest, list => modifyItem? index (assignAlong? value next rest) list

/-- Assign a value to the place of a path, if there is one in the tree. -/
def assign? (path : KeyPath) (value : Json) (tree : Json) : Option Json :=
  assignAlong? value (.member path.root) path.steps tree

end KeyPath
end FaultCorrelation
