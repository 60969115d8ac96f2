import FaultCorrelation.Engine.State

/-! # Ticks

A tick advances the clock, collects garbage and, unless nothing has changed since the tick before,
correlates: it clusters the active alarms, evaluates the policy and commits what the rules asked
for. A tick that fails in the correlation hands its inputs back for the next one.
-/

namespace FaultCorrelation

/-- What a tick did. -/
structure TickSummary where
  time : Int
  /-- Nothing had changed since the tick before. -/
  skipped : Bool := false
  garbageCollected : Nat := 0
  alarmsClustered : Nat := 0
  clusters : Nat := 0
  /-- The situations that were started. -/
  created : List String := []
  /-- The situations that were revised. -/
  updated : List String := []
  failures : List (Rule × StateFault) := []

/-- The number of situations a tick hands out. -/
def TickSummary.emitted (summary : TickSummary) : Nat :=
  summary.created.length + summary.updated.length

/-- A tick with the situations it hands out. -/
structure TickOutcome where
  summary : TickSummary
  emitted : List Situation := []
  /-- How many alarms expired in this very tick. -/
  expired : Nat := 0

namespace EngineState

variable {W : Type} [Weight W]

/-- Cluster the active alarms, with the remembered distances of the state. -/
def cluster (parameters : Parameters W) (state : EngineState W) :
    Except Fault (List Cluster) × EngineState W :=
  let (clusters, distances) :=
    (parameters.clusterer.clusters state.graph state.graph.activeAlarms).run.run state.distances
  (clusters, { state with distances })

omit [Weight W] in
/-- What the policy looks at in a tick. -/
def facts (state : EngineState W) (clusters : List Cluster) (collected : List Alarm)
    (feedback : List Feedback) : Facts :=
  { active := Facts.indexActive state.graph.activeAlarms, clusters, collected, feedback
    ledger := state.ledger }

omit [Weight W] in
/-- Let the policy look at a tick. -/
def deliberate (parameters : Parameters W) (state : EngineState W) (ids : IdSource) (now : Int)
    (clusters : List Cluster) (collected : List Alarm) (feedback : List Feedback) :
    Workbench × EvaluationReport :=
  Policy.evaluate parameters.rules (state.facts clusters collected feedback)
    { draft := .new now, ids }

/-- Commit a draft to the ledger of the state. -/
def commit (state : EngineState W) (draft : Draft) : EngineState W × List Situation :=
  let ((ledger, committed), distances) :=
    (state.ledger.commit draft state.graph).run state.distances
  ({ state with ledger, distances }, committed)

/-- Cluster, evaluate and commit. -/
def correlate (parameters : Parameters W) (state : EngineState W) (ids : IdSource)
    (summary : TickSummary) (collected : List Alarm) (feedback : List Feedback) :
    Except Fault (TickSummary × List Situation) × EngineState W × IdSource :=
  match state.cluster parameters with
  | (.error cause, state) => (.error cause, state, ids)
  | (.ok clusters, state) =>
    let (bench, report) :=
      state.deliberate parameters ids summary.time clusters collected feedback
    let created := bench.draft.newIds
    let (state, committed) := state.commit bench.draft
    let (new, old) := (committed.map Situation.id).partition created.contains
    (.ok ({ summary with
        alarmsClustered := state.graph.alarmCount, clusters := clusters.length
        created := new, updated := old, failures := report.failures }, committed),
      state, bench.ids)

/-- Why a tick cannot run, if it cannot. -/
def checkTick (state : EngineState W) (now : Int) : Except Fault Unit :=
  match state.phase with
  | .uninitialized => .error (.state .tickBeforeInit)
  | .destroyed => .error (.state .tickAfterDestroy)
  | .initialized =>
    if now < state.clock then .error (.state (.timeWentBackwards now state.clock)) else .ok ()

omit [Weight W] in
/-- Whether nothing has changed that a tick has to look at. -/
def isIdle (state : EngineState W) : Bool := !state.dirty && state.pendingFeedback.isEmpty

omit [Weight W] in
/-- The part of a tick up to garbage collection. Answers with the alarms collected in it or handed
back by a tick before, and how many expired in this very tick. -/
def beginTick (parameters : Parameters W) (state : EngineState W) (now : Int) :
    EngineState W × List Alarm × Nat :=
  let (state, expired) :=
    { state with clock := now, graph := { state.graph with clock := now } }.collectGarbage
      parameters now
  ({ state with pendingCollected := [], dirty := state.dirty || !expired.isEmpty },
    Sorting.sortBy byId (state.pendingCollected ++ expired), expired.length)

/-- The part of a tick behind garbage collection. -/
def finishTick (parameters : Parameters W) (state : EngineState W) (ids : IdSource)
    (summary : TickSummary) (collected : List Alarm) :
    Except Fault (TickSummary × List Situation) × EngineState W × IdSource :=
  if state.isIdle then
    (.ok ({ summary with skipped := true }, []), state, ids)
  else
    let feedback := state.pendingFeedback
    let state := { state with pendingFeedback := [] }
    match state.correlate parameters ids summary collected feedback with
    | (.error cause, state, ids) => (.error cause, state.requeue collected feedback, ids)
    | (.ok outcome, state, ids) => (.ok outcome, { state with dirty := false }, ids)

/-- Advance the clock to `now` and correlate. -/
def tick (parameters : Parameters W) (state : EngineState W) (ids : IdSource) (now : Int) :
    Except Fault TickOutcome × EngineState W × IdSource :=
  match state.checkTick now with
  | .error cause => (.error cause, state, ids)
  | .ok () =>
    let (state, collected, expired) := state.beginTick parameters now
    let summary : TickSummary := { time := now, garbageCollected := collected.length }
    match state.finishTick parameters ids summary collected with
    | (.error cause, state, ids) => (.error cause, state, ids)
    | (.ok (summary, emitted), state, ids) =>
      (.ok { summary, emitted, expired }, state, ids)

end EngineState
end FaultCorrelation
