import FaultCorrelation.Json.Basic

/-! # Requests and responses

What the service reads of a request and what it answers. A request names its resource by a path;
the segments of a path may be percent-encoded.
-/

namespace FaultCorrelation

/-- A request method. -/
inductive Method where
  | get
  | head
  | post
  | delete
  | other (name : String)
  deriving DecidableEq, Repr

/-- The method of a name; names are case-sensitive. -/
def Method.ofName : String → Method
  | "GET" => get
  | "HEAD" => head
  | "POST" => post
  | "DELETE" => delete
  | name => other name

/-- A request. -/
structure Request where
  method : Method
  /-- The path, with whatever follows it. -/
  target : String
  /-- Whether the body is declared to be JSON. -/
  isJson : Bool
  body : String
  deriving DecidableEq, Repr

/-- A response; `body` is the JSON body, if it has one. -/
structure Response where
  status : Nat
  body : Option Json := none

namespace Target

/-- The part of a target in front of its query and fragment. -/
def beforeQuery (target : List Char) : List Char :=
  target.takeWhile fun c => c != '?' && c != '#'

/-- What follows the scheme of a target that has one. -/
def afterScheme? (target : List Char) : Option (List Char) :=
  match target.dropWhile fun c => c.isAlphanum || c == '+' || c == '-' || c == '.' with
  | ':' :: '/' :: '/' :: rest => some rest
  | _ => none

/-- The path of a target, without the scheme and authority that may stand in front of it. -/
def path (target : List Char) : List Char :=
  match afterScheme? (beforeQuery target) with
  | some rest => rest.dropWhile (· != '/')
  | none => beforeQuery target

/-- The segments of a path: what stands between its slashes. -/
def segments (path : List Char) : List String :=
  (String.ofList path).splitOn "/"

/-- The value of a hexadecimal digit in a byte string. -/
def hexValue? (byte : UInt8) : Option UInt8 :=
  if '0'.toUInt8 ≤ byte ∧ byte ≤ '9'.toUInt8 then some (byte - '0'.toUInt8)
  else if 'a'.toUInt8 ≤ byte ∧ byte ≤ 'f'.toUInt8 then some (byte - 'a'.toUInt8 + 10)
  else if 'A'.toUInt8 ≤ byte ∧ byte ≤ 'F'.toUInt8 then some (byte - 'A'.toUInt8 + 10)
  else none

/-- The byte of two hexadecimal digits. -/
def hexPair? (high low : UInt8) : Option UInt8 := do
  let high ← hexValue? high
  let low ← hexValue? low
  some (high * 16 + low)

/-- Replace each percent sign that two hexadecimal digits follow by the byte they stand for. -/
def percentDecoded : List UInt8 → List UInt8
  | [] => []
  | byte :: rest =>
    if byte = '%'.toUInt8 then
      match rest with
      | high :: low :: after =>
        match hexPair? high low with
        | some decoded => decoded :: percentDecoded after
        | none => byte :: percentDecoded (high :: low :: after)
      | other => byte :: other
    else byte :: percentDecoded rest

/-- The text of a percent-encoded segment, unless its bytes are no text. -/
def segmentText? (segment : String) : Option String :=
  String.fromUTF8? ⟨(percentDecoded segment.toUTF8.toList).toArray⟩

end Target

namespace Request

/-- The segments of the path of a request. -/
def segments (request : Request) : List String :=
  Target.segments (Target.path request.target.toList)

end Request
end FaultCorrelation
