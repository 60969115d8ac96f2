import FaultCorrelation.Ledger.Commit
import FaultCorrelation.Policy.Evaluation
import FaultCorrelation.Topology.Alarms
import FaultCorrelation.Topology.Inventory

/-! # The state of an engine

`EngineState` joins the topology, the remembered distances and the ledger with what has arrived
since the last tick. `alarmVertices` repeats, by alarm id, which vertex holds each alarm, so that
an alarm that moves to another resource is found.

The state is dirty when something has changed that the next tick has to look at. Feedback that
waits is looked at in any case.
-/

namespace FaultCorrelation

/-- The stages of an engine's life, in order. -/
inductive Phase where
  | uninitialized
  | initialized
  | destroyed
  deriving DecidableEq, Repr

/-- What an engine runs on, once its settings have been checked. Times are milliseconds. -/
structure Parameters (W : Type) where
  weights : EdgeWeights W
  cacheCapacity : Nat
  clearedLifetime : Int
  problemLifetime : Int
  clusterer : AlarmClusterer W
  rules : List Rule

/-- Check settings and put them to use. The rules are resolved before anything else is looked at. -/
def Parameters.ofSettings (settings : Settings) : Except SettingsFault (Parameters Float) := do
  let rules ← settings.resolvedRules
  settings.validate
  let clusterer ← AlarmClusterer.ofSettings settings
  return { weights := settings.weights, cacheCapacity := settings.cacheCapacity
           clearedLifetime := settings.clearedLifetime
           problemLifetime := settings.problemLifetime, clusterer, rules }

/-- The latest time there is. -/
def latestTime : Int := Word64.maxSigned

/-- How long an alarm lingers. -/
def Parameters.lifetime {W : Type} (parameters : Parameters W) (alarm : Alarm) : Int :=
  if alarm.isCleared then parameters.clearedLifetime else parameters.problemLifetime

/-- Whether an alarm has outlived its time. Its end is never later than the latest time there is. -/
def Parameters.isExpired {W : Type} (parameters : Parameters W) (now : Int) (alarm : Alarm) :
    Bool :=
  decide (min (alarm.time + parameters.lifetime alarm) latestTime ≤ now)

/-- The state of an engine. -/
structure EngineState (W : Type) where
  phase : Phase := .uninitialized
  clock : Int := 0
  graph : Topology W
  distances : DistanceCache W
  ledger : Ledger := {}
  /-- The vertex that holds each alarm. -/
  alarmVertices : Std.ExtTreeMap String VertexId := ∅
  pendingFeedback : List Feedback := []
  /-- Collected alarms whose release has not been committed. -/
  pendingCollected : List Alarm := []
  dirty : Bool := false

/-- The records an engine starts from. -/
structure InitialData (W : Type) where
  alarms : List Alarm := []
  feedback : List Feedback := []
  situations : List Situation := []
  inventory : List (InventoryObject W) := []

/-- How many of the initial records were taken. -/
structure InitialCounts where
  inventory : Nat
  alarms : Nat
  situations : Nat
  feedback : Nat
  deriving DecidableEq, Repr

namespace EngineState

variable {W : Type}

/-- The state of a new engine. -/
def fresh (parameters : Parameters W) : EngineState W :=
  { graph := { weights := parameters.weights }
    distances := .ofCapacity parameters.cacheCapacity }

/-- Hold an alarm at the vertex of its resource, and nowhere else. -/
def putAlarm (state : EngineState W) (alarm : Alarm) : Except DataFault (EngineState W) :=
  match state.graph.putAlarm alarm with
  | .error cause => .error cause
  | .ok (graph, id, _) =>
    let graph :=
      match state.alarmVertices[alarm.id]? with
      | some previous => if previous = id then graph else graph.releaseAlarm previous alarm.id
      | none => graph
    .ok { state with
      graph, alarmVertices := state.alarmVertices.insert alarm.id id, dirty := true }

/-- Hold an alarm; one that cannot be held is passed over. Answers whether it is held. -/
def tryAlarm (state : EngineState W) (alarm : Alarm) : EngineState W × Bool :=
  match state.putAlarm alarm with
  | .ok state => (state, true)
  | .error _ => (state, false)

/-- Hold alarms in order; and how many are held. -/
def tryAlarms (state : EngineState W) (alarms : List Alarm) : EngineState W × Nat :=
  alarms.foldl (fun (state, count) alarm =>
    let (state, held) := state.tryAlarm alarm
    (state, count + held.toNat)) (state, 0)

/-- Let go of one alarm that expired, if its vertex still holds it. -/
def collectAlarm (state : EngineState W) (collected : List Alarm) (located : LocatedAlarm) :
    EngineState W × List Alarm :=
  match state.graph.alarmAt? located.vertex located.alarm.id with
  | none => (state, collected)
  | some alarm =>
    ({ state with
        graph := state.graph.releaseAlarm located.vertex located.alarm.id
        alarmVertices := state.alarmVertices.erase located.alarm.id }, collected ++ [alarm])

/-- The order of alarms by id. -/
def byId (a b : Alarm) : Bool := (compare a.id b.id).isLE

/-- Let go of every alarm that has expired. Answers with them in order of their ids. -/
def collectGarbage (parameters : Parameters W) (now : Int) (state : EngineState W) :
    EngineState W × List Alarm :=
  let expired := state.graph.activeAlarms.filter fun located =>
    parameters.isExpired now located.alarm
  let (state, collected) := expired.foldl
    (fun (state, collected) located => state.collectAlarm collected located) (state, [])
  (state, Sorting.sortBy byId collected)

/-- Hand the inputs of a failed correlation back, for the next tick. -/
def requeue (state : EngineState W) (collected : List Alarm) (feedback : List Feedback) :
    EngineState W :=
  { state with
    pendingFeedback := feedback ++ state.pendingFeedback
    pendingCollected := state.pendingCollected ++ collected
    dirty := true }

/-- Drop everything but the clock. -/
def destroy (parameters : Parameters W) (state : EngineState W) : EngineState W :=
  if state.phase = .destroyed then state
  else { fresh parameters with clock := state.clock, phase := .destroyed }

variable [Weight W]

/-- Take in the initial records. This can be done once. -/
def load (state : EngineState W) (data : InitialData W) :
    Except Fault (EngineState W × InitialCounts) :=
  match state.phase with
  | .initialized => .error (.state .alreadyInitialized)
  | .destroyed => .error (.state .destroyed)
  | .uninitialized =>
    let (graph, change) := state.graph.addInventory data.inventory
    let (state, alarms) := { state with graph }.tryAlarms data.alarms
    let (ledger, situations) := state.ledger.loadAll data.situations
    .ok ({ state with
        ledger, dirty := true, phase := .initialized
        pendingFeedback := state.pendingFeedback ++ data.feedback },
      { inventory := data.inventory.length - change.skipped, alarms, situations
        feedback := data.feedback.length })

end EngineState
end FaultCorrelation
