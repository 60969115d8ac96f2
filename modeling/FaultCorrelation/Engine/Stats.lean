import FaultCorrelation.Engine.State

/-! # Statistics of an engine

A count of everything an engine holds at one point in time.
-/

namespace FaultCorrelation

/-- What an engine holds at one point in time. -/
structure EngineStats where
  phase : Phase
  clock : Int
  vertices : Nat
  edges : Nat
  activeAlarms : Nat
  workingSetVertices : Nat
  situations : Nat
  mappedAlarms : Nat
  distances : CacheStats
  deriving DecidableEq, Repr

/-- The word a phase is written as. -/
def Phase.word : Phase → String
  | uninitialized => "uninitialized"
  | initialized => "initialized"
  | destroyed => "destroyed"

/-- Every counter is written. -/
def CacheStats.toJson (stats : CacheStats) : Json :=
  .record [("entries", .int stats.entries), ("hits", .int stats.hits),
    ("misses", .int stats.misses), ("invalidations", .int stats.invalidations)]

/-- Every count is written. -/
def EngineStats.toJson (stats : EngineStats) : Json :=
  .record [("phase", .text stats.phase.word), ("current_time_ms", .int stats.clock),
    ("vertices", .int stats.vertices), ("edges", .int stats.edges),
    ("active_alarms", .int stats.activeAlarms),
    ("working_set_vertices", .int stats.workingSetVertices),
    ("situations", .int stats.situations), ("mapped_alarms", .int stats.mappedAlarms),
    ("distance_cache", stats.distances.toJson)]

end FaultCorrelation
