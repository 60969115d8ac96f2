import FaultCorrelation.Alarm.Severity
import FaultCorrelation.Resource

/-! # Alarms

An alarm reports a fault on a resource. Updates of one fault share the alarm's id; a clear is an
alarm of severity `cleared`.
-/

namespace FaultCorrelation

/-- A fault reported against a resource. Times are milliseconds. -/
structure Alarm where
  id : String
  time : Int
  severity : Severity
  resource : Option ResourceKey
  summary : Option String
  deriving DecidableEq, Repr, Inhabited

/-- Alarms by name; in most maps the name is the alarm's own id. -/
abbrev AlarmMap := Std.ExtTreeMap String Alarm

namespace Alarm

/-- Whether the fault is over. -/
def isCleared (alarm : Alarm) : Bool := alarm.severity == .cleared

/-- The alarm that reports the fault as over. -/
def clear (alarm : Alarm) : Alarm := { alarm with severity := .cleared }

/-- The resource key is always written, the summary only if there is one. -/
def toJson (alarm : Alarm) : Json :=
  .record ([("id", .text alarm.id), ("time_ms", .int alarm.time),
    ("severity", .text alarm.severity.word),
    ("resource_key", alarm.resource.elim .null ResourceKey.toJson)] ++
    (alarm.summary.map fun summary => ("summary", .text summary)).toList)

/-- The fields of an alarm. -/
def fields {γ : Type} : Fields γ Alarm :=
  Alarm.mk <$> .required "id" Decoder.text <*> .required "time_ms" Decoder.int64
    <*> .required "severity" Severity.decode <*> .optional "resource_key" ResourceKey.decode
    <*> .optional "summary" Decoder.text

/-- Read an alarm. -/
def decode {γ : Type} [Mark γ] : Decoder γ Alarm := fields.decode

end Alarm
end FaultCorrelation
