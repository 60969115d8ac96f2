import FaultCorrelation.Engine.Tick

/-! # Structured events

What an engine reports about itself as it runs. Each event has a level, and is written as a record
together with the name of the instance that reports it.
-/

namespace FaultCorrelation

/-- How important an event is. -/
inductive EventLevel where
  | debug
  | info
  | warn
  deriving DecidableEq, Repr

/-- The word a level is written as. -/
def EventLevel.word : EventLevel → String
  | debug => "DEBUG"
  | info => "INFO"
  | warn => "WARN"

/-- Something an engine reports. -/
inductive Event where
  | started (version : String) (tickResolution : Int)
  | shutdown (reason : String)
  | initialized (counts : InitialCounts)
  /-- A situation was handed out. -/
  | situation (situation : Situation) (created : Bool)
  | tick (summary : TickSummary)
  | ruleFailed (rule : Rule)

namespace Event

/-- The level of an event. -/
def level : Event → EventLevel
  | tick _ => .debug
  | ruleFailed _ => .warn
  | _ => .info

/-- The name of an event. -/
def name : Event → String
  | started _ _ => "engine_started"
  | shutdown _ => "engine_shutdown"
  | initialized _ => "engine_initialized"
  | situation _ true => "situation_created"
  | situation _ false => "situation_updated"
  | tick _ => "tick"
  | ruleFailed _ => "rule_failed"

/-- What an event tells beyond its name. -/
def details : Event → List (String × Json)
  | started version tickResolution =>
    [("version", .text version), ("tick_resolution_ms", .int tickResolution)]
  | shutdown reason => [("reason", .text reason)]
  | initialized counts =>
    [("inventory", .int counts.inventory), ("alarms", .int counts.alarms),
      ("situations", .int counts.situations), ("feedback", .int counts.feedback)]
  | situation item _ =>
    [("situation_id", .text item.id), ("severity", .text item.severity.word),
      ("alarms", .int item.alarms.size), ("diagnostic", .text (item.diagnostic.getD ""))]
  | tick summary =>
    [("timestamp_ms", .int summary.time), ("garbage_collected", .int summary.garbageCollected),
      ("clusters", .int summary.clusters), ("situations", .int summary.emitted)]
  | ruleFailed rule => [("rule", .text rule.name)]

/-- An event as a record. -/
def toJson (instanceName : String) (event : Event) : Json :=
  .record ([("event", .text event.name), ("instance", .text instanceName),
    ("level", .text event.level.word)] ++ event.details)

/-- The events of a tick that was not skipped: failed rules, situations handed out, the tick. -/
def ofTick (outcome : TickOutcome) : List Event :=
  outcome.summary.failures.map (fun failure => .ruleFailed failure.1) ++
    outcome.emitted.map (fun item => .situation item (outcome.summary.created.contains item.id)) ++
    [.tick outcome.summary]

end Event
end FaultCorrelation
