import FaultCorrelation.Json.Basic
import FaultCorrelation.Decimal.Binary64
import FaultCorrelation.Decimal.Digits
import FaultCorrelation.Decimal.Word64

/-! # Reading JSON text

`Document.ofText` reads one value from the front of a text as far as the grammar allows and marks
where it gave up. `Json.ofText?` accepts a whole text that is one complete value.

The reader takes fuel, one unit for each value, item or field it starts; a text of `n` characters
starts fewer than `2 * n + 2` of them, so the fuel given by `ofText` never runs out.
-/

namespace FaultCorrelation

namespace Reading

open Decimal

/-- A value and the text behind it; no text behind it if reading stopped. -/
abbrev Step := Document Gap × Option (List Char)

/-- Drop the four blanks that JSON allows between tokens. -/
def skipBlanks (cs : List Char) : List Char :=
  cs.dropWhile fun c => c == ' ' || c == '\n' || c == '\t' || c == '\r'

/-- The value of a hexadecimal digit. -/
def hexDigit? (c : Char) : Option Nat :=
  if '0' ≤ c ∧ c ≤ '9' then some (c.toNat - '0'.toNat)
  else if 'a' ≤ c ∧ c ≤ 'f' then some (c.toNat - 'a'.toNat + 10)
  else if 'A' ≤ c ∧ c ≤ 'F' then some (c.toNat - 'A'.toNat + 10)
  else none

/-- The value of four hexadecimal digits. -/
def hexQuad? (a b c d : Char) : Option Nat := do
  let a ← hexDigit? a
  let b ← hexDigit? b
  let c ← hexDigit? c
  let d ← hexDigit? d
  some (((a * 16 + b) * 16 + c) * 16 + d)

/-- The character a one-letter escape stands for. -/
def escape? : Char → Option Char
  | '"' => some '"'
  | '\\' => some '\\'
  | '/' => some '/'
  | 'b' => some '\x08'
  | 'f' => some '\x0c'
  | 'n' => some '\n'
  | 'r' => some '\r'
  | 't' => some '\t'
  | _ => none

/-- A piece of a string literal. -/
inductive Piece where
  | char (c : Char)
  /-- A sixteen-bit unit given by an escape. -/
  | unit (n : Nat)

/-- The pieces of a string literal up to its closing quote, and the text behind the quote. -/
def stringPieces? : List Char → Option (List Piece × List Char)
  | [] => none
  | '"' :: rest => some ([], rest)
  | '\\' :: 'u' :: a :: b :: c :: d :: rest =>
    match hexQuad? a b c d, stringPieces? rest with
    | some n, some (pieces, rest) => some (.unit n :: pieces, rest)
    | _, _ => none
  | '\\' :: c :: rest =>
    match escape? c, stringPieces? rest with
    | some c, some (pieces, rest) => some (.char c :: pieces, rest)
    | _, _ => none
  | c :: rest =>
    if c.toNat < 0x20 then none
    else (stringPieces? rest).map fun (pieces, rest) => (.char c :: pieces, rest)

/-- The characters of a string literal. Units pair up into characters beyond the first plane; a
surrogate without its partner is no character. -/
def chars? : List Piece → Option (List Char)
  | [] => some []
  | .char c :: rest => (chars? rest).map (c :: ·)
  | .unit n :: rest =>
    if n < 0xd800 ∨ 0xdfff < n then (chars? rest).map (Char.ofNat n :: ·)
    else if 0xdbff < n then none
    else
      match rest with
      | .unit m :: rest =>
        if 0xdc00 ≤ m ∧ m ≤ 0xdfff then
          (chars? rest).map (Char.ofNat (0x10000 + (n - 0xd800) * 0x400 + (m - 0xdc00)) :: ·)
        else none
      | _ => none

/-- A number literal split at its point and exponent. -/
structure NumberLiteral where
  negative : Bool
  whole : List Char
  fraction : List Char
  exponent : Int
  /-- Neither point nor exponent was written. -/
  isWhole : Bool

/-- The fraction part of a number literal: digits behind a point, or nothing. -/
def fraction? : List Char → Option (List Char × List Char)
  | '.' :: rest =>
    let (digits, rest) := takeDigits rest
    if digits.isEmpty then none else some (digits, rest)
  | rest => some ([], rest)

/-- A number literal at the front of a text. A whole part has no leading zeros. -/
def numberLiteral? (cs : List Char) : Option (NumberLiteral × List Char) := do
  let (negative, cs) := match cs with
    | '-' :: rest => (true, rest)
    | rest => (false, rest)
  let (whole, rest) := takeDigits cs
  if whole.isEmpty || (whole.length > 1 && whole.head? == some '0') then none
  else
    let (fraction, afterPoint) ← fraction? rest
    let (exponent, rest') ← exponent? afterPoint
    some ({ negative, whole, fraction, exponent := exponent.getD 0
            isWhole := fraction.isEmpty && exponent.isNone }, rest')

/-- The value of a number literal: an integer if it is written as one and fits 64 bits, signed or
unsigned; otherwise the nearest binary64 number. Minus zero is not an integer. -/
def NumberLiteral.value (literal : NumberLiteral) : Document Gap :=
  let digits := literal.whole ++ literal.fraction
  let float : Document Gap :=
    match Decimal.Binary64.ofScientific? literal.negative (digitsValue digits) digits.length
      (literal.exponent - literal.fraction.length) with
    | some value => .float value
    | none => .gap .valueless
  if literal.isWhole then
    let magnitude := (digitsValue literal.whole : Int)
    if literal.negative then
      if 0 < magnitude ∧ Word64.minSigned ≤ -magnitude then .int (-magnitude) else float
    else if Word64.isUnsigned magnitude then .int magnitude
    else float
  else float

/-- Read a fixed word behind its first letter. -/
def readWord (word : String) (value : Document Gap) (cs : List Char) : Step :=
  if word.toList.isPrefixOf cs then (value, some (cs.drop word.length)) else (.gap .stopped, none)

/-- Read a string literal behind its opening quote. -/
def readString (cs : List Char) : Step :=
  match stringPieces? cs with
  | none => (.gap .stopped, none)
  | some (pieces, rest) =>
    match chars? pieces with
    | some chars => (.text (String.ofList chars), some rest)
    | none => (.gap .valueless, some rest)

/-- Read a number literal. -/
def readNumber (cs : List Char) : Step :=
  match numberLiteral? cs with
  | some (literal, rest) => (literal.value, some rest)
  | none => (.gap .stopped, none)

/-- The fields of an object, the mark where reading them ended early, and the text behind the
object; no text behind it if reading stopped. -/
abbrev FieldsStep := List (String × Document Gap) × Option Gap × Option (List Char)

/-- Put a field in front of those behind it. An object is cut at a name that stands for nothing,
though reading goes on behind it. -/
def prependField (name value : Document Gap) : FieldsStep → FieldsStep
  | (fields, cut, rest) =>
    match name with
    | .text name => ((name, value) :: fields, cut, rest)
    | _ => ([], some (if rest.isSome then .valueless else .stopped), rest)

mutual
/-- Read one value; `depth` more levels of nesting are allowed. -/
def readValue : (fuel depth : Nat) → List Char → Step
  | 0, _, _ => (.gap .stopped, none)
  | fuel + 1, depth, cs =>
    match skipBlanks cs with
    | '"' :: rest => readString rest
    | 't' :: rest => readWord "rue" (.bool true) rest
    | 'f' :: rest => readWord "alse" (.bool false) rest
    | 'n' :: rest => readWord "ull" .null rest
    | '[' :: rest =>
      match depth with
      | 0 => (.gap .stopped, none)
      | depth + 1 =>
        match skipBlanks rest with
        | ']' :: rest => (.list [], some rest)
        | rest =>
          let (items, rest) := readItems fuel depth rest
          (.list items, rest)
    | '\x7b' :: rest =>
      match depth with
      | 0 => (.gap .stopped, none)
      | depth + 1 =>
        match skipBlanks rest with
        | '\x7d' :: rest => (.record [], some rest)
        | rest =>
          let (fields, cut, rest) := readFields fuel depth rest
          (.object fields cut, rest)
    | cs => readNumber cs

/-- Read the items of an array up to its closing bracket. -/
def readItems : (fuel depth : Nat) → List Char → List (Document Gap) × Option (List Char)
  | 0, _, _ => ([.gap .stopped], none)
  | fuel + 1, depth, cs =>
    match readValue fuel depth cs with
    | (item, none) => ([item], none)
    | (item, some rest) =>
      match skipBlanks rest with
      | ']' :: rest => ([item], some rest)
      | ',' :: rest =>
        let (items, rest) := readItems fuel depth rest
        (item :: items, rest)
      | _ => ([item, .gap .stopped], none)

/-- Read the fields of an object up to its closing brace. -/
def readFields : (fuel depth : Nat) → List Char → FieldsStep
  | 0, _, _ => ([], some .stopped, none)
  | fuel + 1, depth, cs =>
    match skipBlanks cs with
    | '"' :: rest =>
      match readString rest with
      | (_, none) => ([], some .stopped, none)
      | (name, some rest) =>
        match skipBlanks rest with
        | ':' :: rest =>
          match readValue fuel depth rest with
          | (value, none) => prependField name value ([], none, none)
          | (value, some rest) =>
            match skipBlanks rest with
            | '\x7d' :: rest => prependField name value ([], none, some rest)
            | ',' :: rest => prependField name value (readFields fuel depth rest)
            | _ => prependField name value ([], some .stopped, none)
        | _ => prependField name (.gap .stopped) ([], none, none)
    | _ => ([], some .stopped, none)
end

end Reading

open Reading

/-- Read one value from the front of a text, nested at most `depth` deep, and the text behind it. -/
def Document.ofChars (depth : Nat) (cs : List Char) : Reading.Step :=
  readValue (2 * cs.length + 2) depth cs

/-- Read one value from the front of a text; what follows it is ignored. -/
def Document.ofText (text : String) : Document Gap :=
  (Document.ofChars text.length text.toList).1

/-- Read a text that holds one value and nothing but blanks around it. -/
def Document.ofWholeText? (depth : Nat) (text : String) : Option (Document Gap) :=
  match Document.ofChars depth text.toList with
  | (document, some rest) => if (skipBlanks rest).isEmpty then some document else none
  | (_, none) => none

/-- The deepest nesting of a text that is read as one complete value. -/
def Json.maxDepth : Nat := 127

/-- Read a whole text as one complete value. -/
def Json.ofText? (text : String) : Option Json :=
  (Document.ofWholeText? Json.maxDepth text).bind Document.complete?

end FaultCorrelation
