import FaultCorrelation.Engine.Callback
import FaultCorrelation.Engine.Event
import FaultCorrelation.Engine.Metrics
import FaultCorrelation.Engine.Outlet
import FaultCorrelation.Engine.Stats

/-! # The correlation engine

An `Engine` is an engine state together with everything around it: the barrier that holds callbacks
back until the initial records are in, the supply of ids, the outlets, metrics and events.

The barrier opens with the first `init` or `destroy`, whatever its outcome. Callbacks that came
before wait for it. Once it is open, what waits takes its turns among the calls that come then, in
any order.
-/

namespace FaultCorrelation

/-- A correlation engine. -/
structure Engine (W : Type) where
  parameters : Parameters W
  /-- How often the host is expected to tick. -/
  tickResolution : Int
  /-- The name under which events are reported. -/
  instanceName : String
  state : EngineState W
  ids : IdSource := .counting
  /-- Whether the barrier is open. -/
  isOpen : Bool := false
  /-- Batches of callbacks that wait for the barrier. -/
  waiting : List (List (Callback W)) := []
  outlets : Outlets := {}
  metrics : Metrics := {}
  /-- The events reported and not yet taken, in order. -/
  events : List Event := []

namespace Engine

/-- An engine that runs on given parameters. -/
def start {W : Type} (parameters : Parameters W) (tickResolution : Int) (instanceName : String) :
    Engine W :=
  { parameters, tickResolution, instanceName, state := .fresh parameters }

/-- An engine that runs on given settings, if they can be run on. -/
def ofSettings (settings : Settings) (instanceName : String) :
    Except SettingsFault (Engine Float) := do
  let parameters ← Parameters.ofSettings settings
  return start parameters settings.tickResolution instanceName

variable {W : Type} [Weight W]

/-- Bring the gauge of situations up to date. -/
def gaugeSituations (engine : Engine W) : Engine W :=
  { engine with
    metrics := { engine.metrics with situations := engine.state.ledger.situations.size } }

/-- Run one callback. -/
def run (engine : Engine W) (callback : Callback W) : Engine W × Reply :=
  let (state, reply) := engine.state.answer callback
  let after := { engine with state }
  match callback with
  | .deleteSituation _ =>
    (if state.phase = .destroyed then after else after.gaugeSituations, reply)
  | _ => (after, reply)

/-- Run callbacks in order. -/
def runAll (engine : Engine W) : List (Callback W) → Engine W × List Reply
  | [] => (engine, [])
  | callback :: rest =>
    let (engine, reply) := engine.run callback
    let (engine, replies) := engine.runAll rest
    (engine, reply :: replies)

/-- Let a batch that waits take its turn, if the barrier is open. Answers with the replies to it. -/
def takeTurn (engine : Engine W) (place : Nat) : Engine W × Option (List Reply) :=
  match engine.waiting[place]? with
  | some batch =>
    if engine.isOpen then
      let (engine, replies) :=
        { engine with waiting := engine.waiting.eraseIdx place }.runAll batch
      (engine, some replies)
    else (engine, none)
  | none => (engine, none)

/-- Let every batch that waits take its turn, in order. -/
def takeTurns (engine : Engine W) : Engine W × List (List Reply) :=
  engine.waiting.foldl (fun (engine, answered) _ =>
    let (engine, replies) := engine.takeTurn 0
    (engine, answered ++ replies.toList)) (engine, [])

/-- Run a batch of callbacks, or let it wait for the barrier. A batch without callbacks has nothing
to wait for. Nothing comes between the callbacks of a batch; where something may, they are batches
of their own. -/
def submit (engine : Engine W) (batch : List (Callback W)) : Engine W × Option (List Reply) :=
  if engine.isOpen || batch.isEmpty then
    let (engine, replies) := engine.runAll batch
    (engine, some replies)
  else ({ engine with waiting := engine.waiting ++ [batch] }, none)

/-- Take in the initial records and open the barrier, whether they could be taken in or not. -/
def init (engine : Engine W) (data : InitialData W) : Engine W × Except Fault Unit :=
  match engine.state.load data with
  | .error cause => ({ engine with isOpen := true }, .error cause)
  | .ok (state, counts) =>
    let loaded :=
      { engine with state, isOpen := true, events := engine.events ++ [Event.initialized counts] }
    (loaded.gaugeSituations, .ok ())

/-- Drop all state and open the barrier. -/
def destroy (engine : Engine W) : Engine W :=
  { engine with state := engine.state.destroy engine.parameters, isOpen := true }

/-- Advance the clock to `now` and correlate; hand out the situations that were committed. -/
def tick (engine : Engine W) (now : Int) : Engine W × Except Fault TickSummary :=
  match engine.state.tick engine.parameters engine.ids now with
  | (.error cause, state, ids) => ({ engine with state, ids }, .error cause)
  | (.ok outcome, state, ids) =>
    let delivered := engine.outlets.hasReceiver
    ({ engine with
        state, ids
        outlets := engine.outlets.deliver outcome.emitted
        metrics := engine.metrics.afterTick outcome state delivered
        events :=
          if outcome.summary.skipped then engine.events
          else engine.events ++ Event.ofTick outcome }, .ok outcome.summary)

/-- Register an outlet for the situations handed out from now on; and its number. -/
def registerOutlet (engine : Engine W) : Engine W × Nat :=
  let (outlets, number) := engine.outlets.register
  ({ engine with outlets }, number)

/-- Take the events reported since they were last taken. -/
def takeEvents (engine : Engine W) : Engine W × List Event :=
  ({ engine with events := [] }, engine.events)

/-- The distance between two vertices. -/
def distance (engine : Engine W) (a b : VertexId) : Engine W × Except Fault W :=
  let (result, distances) := engine.state.distances.distance .ascending engine.state.graph a b
  ({ engine with state := { engine.state with distances } }, result)

/-- The alarms on a resource, in order of their ids. -/
def alarmsOn (engine : Engine W) (key : ResourceKey) : List Alarm :=
  ((engine.state.graph.vertexFor? key).map fun vertex => vertex.alarms.values).getD []

/-- What the engine holds. -/
def stats (engine : Engine W) : EngineStats :=
  let state := engine.state
  { phase := state.phase, clock := state.clock
    vertices := state.graph.vertices.size, edges := state.graph.edges.size
    activeAlarms := state.graph.alarmCount
    workingSetVertices := state.graph.workingSet.length
    situations := state.ledger.situations.size, mappedAlarms := state.ledger.homes.size
    distances := state.distances.stats }

end Engine
end FaultCorrelation
