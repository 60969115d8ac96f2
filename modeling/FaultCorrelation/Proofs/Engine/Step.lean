import FaultCorrelation.Proofs.Engine.AlarmIndex
import FaultCorrelation.Proofs.Topology.Step

/-! # Runs without promises

What a caller promises matters for what an engine shows. That the tables of its topology agree and
that its alarms are indexed takes no promise: both are kept by every step of the state of an engine,
whatever it is started from and whichever ids it draws.
-/

namespace FaultCorrelation

variable {W : Type} [Weight W]

namespace EngineState

/-- What a call may do to the state of an engine. -/
inductive Step (parameters : Parameters W) (state : EngineState W) : EngineState W → Prop where
  | load {data : InitialData W} {next : EngineState W} {counts : InitialCounts}
      (loaded : state.load data = .ok (next, counts)) : Step parameters state next
  | carryOut (callback : Callback W) : Step parameters state (state.carryOut callback).1
  | destroy : Step parameters state (state.destroy parameters)
  | distance (a b : VertexId) : Step parameters state
      { state with distances := (state.distances.distance .ascending state.graph a b).2 }
  | tick (ids : IdSource) (now : Int) : Step parameters state (state.tick parameters ids now).2.1

end EngineState

namespace Engine

open EngineState (Step)

variable {parameters : Parameters W}

/-- What the state of an engine goes through, while its parameters stay the same. -/
structure Stepwise (engine next : Engine W) : Prop where
  parameters_eq : next.parameters = engine.parameters
  steps : Relation.ReflTransGen (Step engine.parameters) engine.state next.state

namespace Stepwise

theorem refl (engine : Engine W) : Stepwise engine engine := ⟨rfl, .refl⟩

theorem trans {engine next last : Engine W} (first : Stepwise engine next)
    (second : Stepwise next last) : Stepwise engine last where
  parameters_eq := second.parameters_eq.trans first.parameters_eq
  steps := first.steps.trans (first.parameters_eq ▸ second.steps)

end Stepwise

theorem run_stepwise (engine : Engine W) (callback : Callback W) :
    Stepwise engine (engine.run callback).1 := by
  have answered : Relation.ReflTransGen (Step engine.parameters) engine.state
      (engine.state.answer callback).1 := by
    rw [EngineState.answer]
    split
    · exact .refl
    · exact .single (.carryOut callback)
  cases callback with
  | deleteSituation id =>
    simp only [run]
    split <;> exact ⟨rfl, answered⟩
  | _ => exact ⟨rfl, answered⟩

theorem runAll_stepwise (engine : Engine W) (batch : List (Callback W)) :
    Stepwise engine (engine.runAll batch).1 := by
  induction batch generalizing engine with
  | nil => exact .refl engine
  | cons callback rest ih => exact (run_stepwise engine callback).trans (ih _)

/-- Every call consists of steps. -/
theorem perform_stepwise (engine : Engine W) (call : Call W) :
    Stepwise engine (engine.perform call) := by
  cases call with
  | init data =>
    rw [perform, init]
    split
    · exact ⟨rfl, .refl⟩
    · rename_i loaded
      exact ⟨rfl, .single (.load loaded)⟩
  | submit batch =>
    rw [perform, submit]
    split
    · exact runAll_stepwise engine batch
    · exact ⟨rfl, .refl⟩
  | takeTurn place =>
    rw [perform]
    cases due : engine.due? place with
    | none =>
      rw [takeTurn_of_none due]
      exact .refl engine
    | some batch =>
      have called : Stepwise engine { engine with waiting := engine.waiting.eraseIdx place } :=
        ⟨rfl, .refl⟩
      rw [(takeTurn_of_some due).1]
      exact called.trans (runAll_stepwise _ batch)
  | tick now =>
    obtain ⟨same, state, _⟩ := tick_eq engine now
    refine ⟨same, ?_⟩
    rw [perform, state]
    exact .single (.tick engine.ids now)
  | destroy => exact ⟨rfl, .single .destroy⟩
  | registerOutlet => exact ⟨rfl, .refl⟩
  | takeEvents => exact ⟨rfl, .refl⟩
  | distance a b => exact ⟨rfl, .single (.distance a b)⟩

/-- What holds of the state of a new engine and is kept by every step holds of the state after any
calls. -/
theorem performAll_invariant (Invariant : EngineState W → Prop)
    (fresh : Invariant (.fresh parameters))
    (step : ∀ state next, Invariant state → Step parameters state next → Invariant next)
    (tickResolution : Int) (instanceName : String) (ids : IdSource) (calls : List (Call W)) :
    let engine := (startWith parameters tickResolution instanceName ids).performAll calls
    engine.parameters = parameters ∧ Invariant engine.state := by
  refine List.foldlRecOn calls perform (motive := fun (engine : Engine W) =>
    engine.parameters = parameters ∧ Invariant engine.state) ⟨rfl, fresh⟩ ?_
  rintro engine ⟨same, before⟩ call _
  obtain ⟨kept, steps⟩ := perform_stepwise engine call
  refine ⟨kept.trans same, ?_⟩
  rw [same] at steps
  generalize (engine.perform call).state = after at steps ⊢
  induction steps with
  | refl => exact before
  | tail _ taken ih => exact step _ _ ih taken

/-- Calls leave the parameters of an engine alone. -/
theorem parameters_performAll (parameters : Parameters W) (tickResolution : Int)
    (instanceName : String) (ids : IdSource) (calls : List (Call W)) :
    ((startWith parameters tickResolution instanceName ids).performAll calls).parameters =
      parameters :=
  (performAll_invariant (fun _ => True) trivial (fun _ _ _ _ => trivial) tickResolution
    instanceName ids calls).1

end Engine

namespace EngineState

variable {parameters : Parameters W} {state next : EngineState W}

theorem moves_step (step : Step parameters state next) :
    Custody.Moves parameters.weights state.custody next.custody := by
  cases step with
  | load loaded => exact moves_load loaded
  | carryOut callback => exact moves_carryOut _ state callback
  | destroy => exact moves_destroy parameters state
  | distance a b => exact .refl
  | tick ids now => exact moves_tick _ parameters state ids now

omit [Weight W] in
theorem steps_tryAlarm (state : EngineState W) (alarm : Alarm) :
    Topology.Steps state.graph (state.tryAlarm alarm).1.graph := by
  rcases state.tryAlarm_cases alarm with ⟨_, same⟩ | ⟨held, id, awoke, graph, placed, moved, same⟩
  · rw [same]
  · rw [same]
    have steps := Topology.steps_putAlarm placed
    rcases moved with ⟨rfl, _⟩ | ⟨previous, _, _, rfl⟩
    · exact steps
    · exact steps.trans (Topology.steps_releaseAlarm _ _ _)

omit [Weight W] in
theorem steps_tryAlarms (state : EngineState W) (alarms : List Alarm) :
    Topology.Steps state.graph (state.tryAlarms alarms).1.graph := by
  rw [tryAlarms_eq]
  exact List.foldlRecOn alarms _
    (motive := fun (next : EngineState W) => Topology.Steps state.graph next.graph) .refl
    fun next steps alarm _ => steps.trans (steps_tryAlarm next alarm)

omit [Weight W] in
theorem steps_beginTick (parameters : Parameters W) (state : EngineState W) (now : Int) :
    Topology.Steps state.graph (state.beginTick parameters now).1.graph := by
  rw [beginTick, collectGarbage]
  refine List.foldlRecOn _ _ (motive := fun (before : EngineState W × List Alarm) =>
    Topology.Steps state.graph before.1.graph) (.single (.clock now)) ?_
  rintro ⟨before, collected⟩ steps located _
  dsimp only
  rw [collectAlarm]
  split
  · exact steps
  · exact steps.trans (Topology.steps_releaseAlarm _ _ _)

/-- A tick leaves the topology as it is once garbage has been collected. -/
theorem graph_tick (parameters : Parameters W) (state : EngineState W) (ids : IdSource)
    (now : Int) : (state.tick parameters ids now).2.1.graph = state.graph ∨
      (state.tick parameters ids now).2.1.graph = (state.beginTick parameters now).1.graph := by
  rcases tick_state parameters state ids now with same | ⟨reached, origin, _, _, _, same⟩
  · exact .inl (congrArg graph same)
  have kept : reached.graph = (state.beginTick parameters now).1.graph := by
    rcases origin with same | ⟨summary, collected, feedback, same⟩ <;> rw [same]
    exact (correlate_frame parameters _ ids summary collected feedback).1
  exact .inr ((congrArg graph same).trans kept)

/-- A step changes the topology in elementary changes, or drops it. -/
theorem graph_cases_of_step (wellFormed : state.graph.WellFormed)
    (step : Step parameters state next) :
    Topology.Steps state.graph next.graph ∨ next.graph = .empty parameters.weights := by
  cases step with
  | @load data _ _ loaded =>
    left
    obtain ⟨_, rfl⟩ := load_spec loaded
    have added := Topology.steps_of_batch (Topology.batch_addInventory wellFormed data.inventory)
    exact added.trans (steps_tryAlarms
      { state with graph := (state.graph.addInventory data.inventory).1 } data.alarms)
  | carryOut callback =>
    left
    cases callback with
    | alarm alarm => exact steps_tryAlarm state alarm
    | clear alarm => exact steps_tryAlarm state alarm.clear
    | addInventory objects =>
      exact Topology.steps_of_batch (Topology.batch_addInventory wellFormed objects)
    | removeInventory objects =>
      exact Topology.steps_of_batch (Topology.batch_removeInventory wellFormed objects)
    | _ => exact .refl
  | destroy =>
    rw [destroy]
    split
    · exact .inl .refl
    · exact .inr rfl
  | distance a b => exact .inl .refl
  | tick ids now =>
    left
    rcases graph_tick parameters state ids now with same | same
    · exact same ▸ .refl
    · exact same ▸ steps_beginTick parameters state now

theorem wellFormed_step (wellFormed : state.graph.WellFormed) (step : Step parameters state next) :
    next.graph.WellFormed := by
  rcases graph_cases_of_step wellFormed step with steps | dropped
  · exact wellFormed.steps steps
  · rw [dropped]
    exact Topology.wellFormed_empty parameters.weights

end EngineState
end FaultCorrelation
