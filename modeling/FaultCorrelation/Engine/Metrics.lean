import FaultCorrelation.Engine.Tick

/-! # Metrics

Counters and gauges of a running engine. Latencies appear only as the number of times they were
measured.
-/

namespace FaultCorrelation

/-- The metrics of an engine. -/
structure Metrics where
  ticksMeasured : Nat := 0
  clusteringsMeasured : Nat := 0
  activeAlarms : Nat := 0
  workingSetVertices : Nat := 0
  situations : Nat := 0
  garbageCollected : Nat := 0
  situationsEmitted : Nat := 0
  cacheEntries : Nat := 0
  cacheHits : Nat := 0
  cacheMisses : Nat := 0
  ruleFailures : Std.ExtTreeMap String Nat := ∅

namespace Metrics

/-- Count a failure of a rule. -/
def countFailure (failures : Std.ExtTreeMap String Nat) (failure : Rule × StateFault) :
    Std.ExtTreeMap String Nat :=
  failures.alter failure.1.name fun count => some (count.getD 0 + 1)

/-- Account for a tick that left a state behind. Situations count as emitted only if somebody took
them. A skipped tick is not measured. -/
def afterTick {W : Type} (metrics : Metrics) (outcome : TickOutcome) (state : EngineState W)
    (delivered : Bool) : Metrics :=
  if outcome.summary.skipped then metrics
  else
    let stats := state.distances.stats
    { ticksMeasured := metrics.ticksMeasured + 1
      clusteringsMeasured := metrics.clusteringsMeasured + 1
      activeAlarms := state.graph.alarmCount
      workingSetVertices := state.graph.workingSet.length
      situations := state.ledger.situations.size
      garbageCollected := metrics.garbageCollected + outcome.expired
      situationsEmitted :=
        metrics.situationsEmitted + if delivered then outcome.emitted.length else 0
      cacheEntries := stats.entries
      cacheHits := stats.hits
      cacheMisses := stats.misses
      ruleFailures := outcome.summary.failures.foldl countFailure metrics.ruleFailures }

/-- The metrics by name. -/
def toJson (metrics : Metrics) : Json :=
  .record ([("tick_latency_seconds", .int metrics.ticksMeasured),
    ("clustering_latency_seconds", .int metrics.clusteringsMeasured),
    ("active_alarms", .int metrics.activeAlarms),
    ("working_set_vertices", .int metrics.workingSetVertices),
    ("situations", .int metrics.situations),
    ("alarms_garbage_collected_total", .int metrics.garbageCollected),
    ("situations_emitted_total", .int metrics.situationsEmitted),
    ("distance_cache_entries", .int metrics.cacheEntries),
    ("distance_cache_hits", .int metrics.cacheHits),
    ("distance_cache_misses", .int metrics.cacheMisses)] ++
    metrics.ruleFailures.toList.map fun entry =>
      ("rule_failures_total/" ++ entry.1, .int entry.2))

end Metrics
end FaultCorrelation
