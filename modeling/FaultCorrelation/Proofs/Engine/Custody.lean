import FaultCorrelation.Proofs.Engine.Ticking

/-! # The custody of alarms

Beside the topology the state of an engine keeps a note of which vertex holds each alarm. The two
change together, in moves of six kinds. Whatever a move keeps is kept by every call of an engine.
-/

namespace FaultCorrelation

open Std

variable {W : Type} [Weight W]

/-- A topology with the note of which vertex holds each alarm. -/
abbrev Custody (W : Type) := Topology W × ExtTreeMap String VertexId

/-- One change of a topology together with the note. -/
inductive Custody.Move (weights : EdgeWeights W) (before : Custody W) : Custody W → Prop where
  | clock (now : Int) : Move weights before ({ before.1 with clock := now }, before.2)
  | addInventory (objects : List (InventoryObject W)) :
      Move weights before ((before.1.addInventory objects).1, before.2)
  | removeInventory (objects : List (InventoryObject W)) :
      Move weights before ((before.1.removeInventory objects).1, before.2)
  | put {alarm : Alarm} {held graph : Topology W} {id : VertexId} {isNew : Bool}
      (placed : before.1.putAlarm alarm = .ok (held, id, isNew))
      (moved : graph = held ∧ (∀ previous ∈ before.2[alarm.id]?, previous = id) ∨
        ∃ previous ∈ before.2[alarm.id]?, previous ≠ id ∧
          graph = held.releaseAlarm previous alarm.id) :
      Move weights before (graph, before.2.insert alarm.id id)
  | release {id : VertexId} {alarm : String} {copy : Alarm}
      (held : before.1.alarmAt? id alarm = some copy) :
      Move weights before (before.1.releaseAlarm id alarm, before.2.erase alarm)
  | drop : Move weights before ({ weights }, ∅)

/-- Any number of such changes. -/
abbrev Custody.Moves (weights : EdgeWeights W) : Custody W → Custody W → Prop :=
  Relation.ReflTransGen (Custody.Move weights)

namespace EngineState

open Custody (Move Moves)

variable {parameters : Parameters W} {weights : EdgeWeights W} {state next : EngineState W}

omit [Weight W] in
/-- The topology of a state and its note of alarms. -/
def custody (state : EngineState W) : Custody W := (state.graph, state.alarmVertices)

omit [Weight W] in
@[simp] theorem custody_fst (state : EngineState W) : state.custody.1 = state.graph := rfl

theorem moves_tryAlarm (weights : EdgeWeights W) (state : EngineState W) (alarm : Alarm) :
    Moves weights state.custody (state.tryAlarm alarm).1.custody := by
  rcases state.tryAlarm_cases alarm with ⟨_, same⟩ | ⟨_, _, _, _, placed, moved, same⟩ <;> rw [same]
  exact .single (.put placed moved)

theorem moves_tryAlarms (weights : EdgeWeights W) (state : EngineState W) (alarms : List Alarm) :
    Moves weights state.custody (state.tryAlarms alarms).1.custody := by
  rw [tryAlarms_eq]
  exact List.foldlRecOn alarms _
    (motive := fun (next : EngineState W) => Moves weights state.custody next.custody) .refl
    fun next moves alarm _ => moves.trans (moves_tryAlarm weights next alarm)

theorem moves_beginTick (weights : EdgeWeights W) (parameters : Parameters W)
    (state : EngineState W) (now : Int) :
    Moves weights state.custody (state.beginTick parameters now).1.custody := by
  rw [beginTick, collectGarbage]
  refine List.foldlRecOn _ _ (motive := fun (before : EngineState W × List Alarm) =>
    Moves weights state.custody before.1.custody) (.single (.clock now)) ?_
  rintro ⟨before, collected⟩ moves located _
  dsimp only
  rw [collectAlarm]
  split
  · exact moves
  · rename_i held
    exact moves.tail (.release held)

theorem moves_load {data : InitialData W} {counts : InitialCounts}
    (loaded : state.load data = .ok (next, counts)) :
    Moves weights state.custody next.custody := by
  obtain ⟨_, rfl⟩ := load_spec loaded
  have added : Move weights state.custody
      ((state.graph.addInventory data.inventory).1, state.alarmVertices) :=
    .addInventory data.inventory
  exact .trans (.single added) (moves_tryAlarms weights
    { state with graph := (state.graph.addInventory data.inventory).1 } data.alarms)

theorem moves_carryOut (weights : EdgeWeights W) (state : EngineState W) (callback : Callback W) :
    Moves weights state.custody (state.carryOut callback).1.custody := by
  cases callback with
  | alarm alarm => exact moves_tryAlarm weights state alarm
  | clear alarm => exact moves_tryAlarm weights state alarm.clear
  | addInventory objects => exact .single (.addInventory objects)
  | removeInventory objects => exact .single (.removeInventory objects)
  | _ => exact .refl

theorem moves_destroy (parameters : Parameters W) (state : EngineState W) :
    Moves parameters.weights state.custody (state.destroy parameters).custody := by
  rw [destroy]
  split
  · exact .refl
  · exact .single .drop

/-- Correlating looks at the topology and at the clock and changes neither. -/
theorem correlate_frame (parameters : Parameters W) (state : EngineState W) (ids : IdSource)
    (summary : TickSummary) (collected : List Alarm) (feedback : List Feedback) :
    (state.correlate parameters ids summary collected feedback).2.1.graph = state.graph ∧
      (state.correlate parameters ids summary collected feedback).2.1.alarmVertices =
        state.alarmVertices ∧
      (state.correlate parameters ids summary collected feedback).2.1.clock = state.clock := by
  cases clustered : (state.cluster parameters).1 with
  | error cause =>
    rw [correlate_of_error _ _ _ _ clustered]
    exact ⟨rfl, rfl, rfl⟩
  | ok clusters =>
    rw [correlate_of_ok _ _ _ _ clustered]
    exact ⟨rfl, rfl, rfl⟩

/-- A tick that is refused changes nothing. Any other begins, and may correlate then. -/
theorem tick_state (parameters : Parameters W) (state : EngineState W) (ids : IdSource)
    (now : Int) :
    (state.tick parameters ids now).2.1 = state ∨
    ∃ reached : EngineState W,
      (reached = (state.beginTick parameters now).1 ∨ ∃ summary collected feedback,
        reached = ({ (state.beginTick parameters now).1 with pendingFeedback := [] }.correlate
          parameters ids summary collected feedback).2.1) ∧
      ∃ pendingFeedback pendingCollected dirty, (state.tick parameters ids now).2.1 =
        { reached with pendingFeedback, pendingCollected, dirty } := by
  rcases tick_cases parameters state ids now with
    ⟨_, _, refused⟩ | ⟨_, idle | ⟨summary, collected, feedback, correlated, origin, _, _, _, busy⟩⟩
  · exact .inl (by rw [refused])
  · rw [idle]
    exact .inr ⟨_, .inl rfl, _, _, _, rfl⟩
  · rw [busy]
    exact .inr ⟨correlated.2.1, .inr ⟨summary, collected, feedback, by rw [origin]⟩, _, _, _, rfl⟩

theorem moves_tick (weights : EdgeWeights W) (parameters : Parameters W) (state : EngineState W)
    (ids : IdSource) (now : Int) :
    Moves weights state.custody (state.tick parameters ids now).2.1.custody := by
  rcases tick_state parameters state ids now with same | ⟨reached, origin, _, _, _, same⟩
  · rw [same]
  have moves := moves_beginTick weights parameters state now
  generalize (state.beginTick parameters now).1 = begun at origin moves
  have kept : reached.custody = begun.custody := by
    rcases origin with same | ⟨summary, collected, feedback, same⟩ <;> rw [same]
    obtain ⟨graph, vertices, _⟩ :=
      correlate_frame parameters { begun with pendingFeedback := [] } ids summary collected feedback
    rw [custody, graph, vertices, custody]
  rw [same]
  exact kept ▸ moves

theorem moves_quiet (quiet : Quiet parameters state next) :
    Moves parameters.weights state.custody next.custody := by
  cases quiet with
  | load _ loaded => exact moves_load loaded
  | carryOut callback => exact moves_carryOut _ state callback
  | destroy => exact moves_destroy parameters state
  | distance distances => exact .refl

end EngineState
end FaultCorrelation
