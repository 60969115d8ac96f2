import FaultCorrelation.Json.Reading
import FaultCorrelation.Service.Settings.Coercion
import FaultCorrelation.Service.Settings.KeyPath
import FaultCorrelation.Settings.Json

/-! # Settings of the service

The settings of the service come from a file, if there is one, and from environment variables, which
override it. The variable `CORRELATOR__ENGINE__EPSILON` sets the member `epsilon` of the table
`engine`: behind its beginning, two underscores separate the names on the way. The engine's settings
are checked once they have been read.
-/

namespace FaultCorrelation

/-- The settings of the service. -/
structure ServiceSettings where
  instanceName : String
  apiPort : Nat
  seedPath : Option String
  engine : Settings

/-- Why the settings of the service cannot be used. -/
inductive ServiceSettingsFault where
  /-- The file is not a JSON object. -/
  | unreadable
  /-- A setting is not of its type. -/
  | mistyped
  /-- A setting has no place: it counts from the end of a list that is not that long, or it lies
  farther into a list than any list reaches. -/
  | unplaceable
  /-- The engine cannot run on its settings. -/
  | engine (cause : SettingsFault)

/-- The wording of a fault. -/
def ServiceSettingsFault.message : ServiceSettingsFault → String
  | unreadable => "failed to read correlator configuration"
  | mistyped => "invalid correlator configuration"
  | unplaceable => "a setting has no place in its list"
  | engine cause => (Fault.settings cause).message

namespace ServiceSettings

mutual
/-- A value with every integer beyond the signed 64-bit range turned into a binary64 number. -/
def narrowed : Json → Json
  | .int value =>
    if Word64.isSigned value then .int value else .float (Decimal.Binary64.ofInt value)
  | .list items => .list (narrowedItems items)
  | .object members _ => .record (narrowedMembers members)
  | other => other

/-- `narrowed` on the items of a list. -/
def narrowedItems : List Json → List Json
  | [] => []
  | item :: rest => narrowed item :: narrowedItems rest

/-- `narrowed` on the members of a table. -/
def narrowedMembers : List (String × Json) → List (String × Json)
  | [] => []
  | (name, value) :: rest => (name, narrowed value) :: narrowedMembers rest
end

/-- A tree of settings with values assigned in order, each to the path its name stands for. -/
def assignAll (tree : Json) (values : List (String × Json)) : Except ServiceSettingsFault Json :=
  values.foldlM (fun tree value =>
    ((KeyPath.ofText value.1).assign? value.2 tree).elim (.error .unplaceable) .ok) tree

/-- What a file adds to a tree of settings. -/
def addFile (tree : Json) (text : String) : Except ServiceSettingsFault Json :=
  match Json.ofText? text with
  | some (.object members _) => assignAll tree (narrowedMembers members)
  | _ => .error .unreadable

/-- The beginning of the variables that are settings, in lower case. -/
def variableStart : String := "correlator__"

/-- Two underscores become a point, from left to right. -/
def dotted : List Char → List Char
  | '_' :: '_' :: rest => '.' :: dotted rest
  | c :: rest => c :: dotted rest
  | [] => []

/-- The path that a variable sets, if it sets one. -/
def variablePath? (name : String) : Option String :=
  let name := KeyPath.lowerName name
  if name.startsWith variableStart then
    some (String.ofList (dotted (name.toList.drop variableStart.length)))
  else none

/-- The value of a variable: a truth value, an integer, a number, or else a text. -/
def variableValue (text : String) : Json :=
  let word := String.ofList (text.toList.map Char.toLower)
  if word == "true" then .bool true
  else if word == "false" then .bool false
  else
    match Decimal.plainInt64? text with
    | some value => .int value
    | none =>
      match Decimal.plainFloat? text with
      | some value => .float value
      | none => .text text

/-- What the environment adds to a tree of settings. -/
def addEnvironment (tree : Json) (environment : List (String × String)) :
    Except ServiceSettingsFault Json :=
  assignAll tree (environment.filterMap fun entry =>
    (variablePath? entry.1).map fun path => (path, variableValue entry.2))

/-- Read the settings from a tree; `host` is the default name of the instance. -/
def decode (host : String) : Decoder Empty ServiceSettings :=
  let style := Coercion.style
  style.record (ServiceSettings.mk <$> Fields.defaulted "instance" style.text host
    <*> Fields.defaulted "api_port" Coercion.nat16 8080
    <*> Fields.optional "seed_path" style.text
    <*> Fields.defaulted "engine" (Settings.decodeIn style) {})

/-- The default name of an instance: the variable `HOSTNAME`, if it is set. -/
def hostName (environment : List (String × String)) : String :=
  (environment.lookup "HOSTNAME").getD "correlator"

/-- Load the settings from a file, if one is given, and the environment, and check them. -/
def load (file : Option String) (environment : List (String × String)) :
    Except ServiceSettingsFault ServiceSettings := do
  let tree ← file.elim (.ok (.record [])) (addFile (.record []))
  let tree ← addEnvironment tree environment
  let settings ← (decode (hostName environment) tree).mapError fun _ => .mistyped
  settings.engine.validate.mapError .engine
  return settings

/-- Every setting is written. -/
def toJson (settings : ServiceSettings) : Json :=
  .record [("instance", .text settings.instanceName), ("api_port", .int settings.apiPort),
    ("seed_path", settings.seedPath.elim .null .text), ("engine", settings.engine.toJson)]

end ServiceSettings
end FaultCorrelation
