import FaultCorrelation.Engine.State

/-! # Callbacks

The records that reach a running engine between ticks. A callback never fails: a record that cannot
be used is passed over. On a destroyed engine callbacks do nothing.
-/

namespace FaultCorrelation

/-- Something that reaches an engine between ticks. -/
inductive Callback (W : Type) where
  | alarm (alarm : Alarm)
  /-- The fault of an alarm is over, whatever severity the alarm was sent with. -/
  | clear (alarm : Alarm)
  | addInventory (objects : List (InventoryObject W))
  | removeInventory (objects : List (InventoryObject W))
  | feedback (feedback : Feedback)
  | deleteSituation (id : String)

/-- The answer to a callback. -/
inductive Reply where
  | done
  /-- Whether there was a situation to delete. -/
  | deleted (existed : Bool)
  deriving DecidableEq, Repr

namespace EngineState

variable {W : Type} [Weight W]

/-- Carry out a callback on an engine that is not destroyed. -/
def carryOut (state : EngineState W) : Callback W → EngineState W × Reply
  | .alarm alarm => ((state.tryAlarm alarm).1, .done)
  | .clear alarm => ((state.tryAlarm alarm.clear).1, .done)
  | .addInventory objects =>
    let (graph, change) := state.graph.addInventory objects
    let changed := decide (0 < change.verticesAdded) || change.changedEdges
    ({ state with graph, dirty := state.dirty || changed }, .done)
  | .removeInventory objects =>
    let (graph, change) := state.graph.removeInventory objects
    let changed := decide (0 < change.verticesRemoved) || change.changedEdges
    ({ state with graph, dirty := state.dirty || changed }, .done)
  | .feedback feedback =>
    ({ state with pendingFeedback := state.pendingFeedback ++ [feedback] }, .done)
  | .deleteSituation id =>
    ({ state with ledger := state.ledger.delete id },
      .deleted (state.ledger.situations.contains id))

/-- The answer of a destroyed engine. -/
def refusal : Callback W → Reply
  | .deleteSituation _ => .deleted false
  | _ => .done

/-- Answer a callback. -/
def answer (state : EngineState W) (callback : Callback W) : EngineState W × Reply :=
  if state.phase = .destroyed then (state, refusal callback) else state.carryOut callback

end EngineState
end FaultCorrelation
