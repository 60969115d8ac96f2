import FaultCorrelation.Alarm.Basic

/-! # Situations

A situation groups alarms that are taken to have one cause. Its severity is that of the worst
alarm in it that is not cleared.
-/

namespace FaultCorrelation

/-- The severity of the worst alarm that is not cleared; `cleared` if there is none. -/
def AlarmMap.severity (alarms : AlarmMap) : Severity :=
  match (alarms.values.filter fun alarm => !alarm.isCleared).map Alarm.severity with
  | [] => .cleared
  | first :: rest => rest.foldl Severity.worse first

/-- A group of alarms with a common cause. -/
structure Situation where
  id : String
  /-- The time of the tick that started the situation. -/
  created : Int
  severity : Severity
  /-- The alarms shown, by alarm id. -/
  alarms : AlarmMap
  /-- A summary of the spread in time and space, once the situation has been committed. -/
  diagnostic : Option String
  deriving DecidableEq

namespace Situation

/-- A situation without alarms. -/
def new (id : String) (created : Int) : Situation :=
  { id, created, severity := .cleared, alarms := ∅, diagnostic := none }

/-- The severity the alarms call for. -/
def computedSeverity (situation : Situation) : Severity := situation.alarms.severity

/-- The situation with the severity its alarms call for. -/
def refreshed (situation : Situation) : Situation :=
  { situation with severity := situation.computedSeverity }

/-- Add an alarm, replacing an earlier one of the same id, and bring the severity up to date. -/
def withAlarm (situation : Situation) (alarm : Alarm) : Situation :=
  { situation with alarms := situation.alarms.insert alarm.id alarm }.refreshed

/-- Every field is written. -/
def toJson (situation : Situation) : Json :=
  .record [("id", .text situation.id), ("creation_time_ms", .int situation.created),
    ("severity", .text situation.severity.word),
    ("alarms", .record (situation.alarms.toList.map fun entry => (entry.1, entry.2.toJson))),
    ("diagnostic_text", situation.diagnostic.elim .null .text)]

/-- Read a situation; the names of the alarms are taken as they are. -/
def decode {γ : Type} [Mark γ] : Decoder γ Situation :=
  (Situation.mk <$> Fields.required "id" Decoder.text
    <*> Fields.required "creation_time_ms" Decoder.int64
    <*> Fields.required "severity" Severity.decode
    <*> Fields.defaulted "alarms" (Decoder.map Alarm.decode) ∅
    <*> Fields.optional "diagnostic_text" Decoder.text).decode

end Situation
end FaultCorrelation
