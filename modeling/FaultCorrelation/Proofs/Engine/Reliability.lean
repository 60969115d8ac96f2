import FaultCorrelation.Proofs.Cluster.Success
import FaultCorrelation.Proofs.Engine.Step
import FaultCorrelation.Proofs.Policy.Completion
import FaultCorrelation.Service.Basic

/-! # Ticks that cannot fail

A tick of an engine that has its initial records succeeds unless time goes backwards, and no rule
fails in it. Two things are needed at once: the vertices of all active alarms are in the topology
that distances are asked of, and every alarm belongs to a situation that is there when the merge
rule looks it up. Both hold whatever the engine is started from, whichever rules it runs and
whichever ids it draws.
-/

namespace FaultCorrelation

open Std

namespace EngineState

variable {W : Type} {graph : Topology W} {vertices : ExtTreeMap String VertexId}

/-- Active alarms have ids of their own. -/
theorem Indexed.nodup_ids (indexed : Indexed graph vertices) :
    (graph.activeAlarms.map fun located => located.alarm.id).Nodup := by
  have ids : graph.activeAlarms.map (fun located => located.alarm.id) =
      graph.workingSet.flatMap fun vertex => vertex.alarms.values.map Alarm.id := by
    rw [Topology.activeAlarms, List.map_flatMap]
    simp only [List.map_map]
    rfl
  have held {entry : VertexId × Vertex W} (member : entry ∈ graph.vertices.toList)
      {alarm : String} {copy : Alarm} (found : entry.2.alarms[alarm]? = some copy) :
      graph.alarmAt? entry.1 alarm = some copy := by
    rw [Topology.alarmAt?, ExtTreeMap.mem_toList_iff_getElem?_eq_some.mp member]
    exact found
  have keys {entry : VertexId × Vertex W} (member : entry ∈ graph.vertices.toList) :
      entry.2.alarms.values.map Alarm.id = entry.2.alarms.keys :=
    Collections.map_values_eq_keys fun _ _ found => indexed.named (held member found)
  rw [ids, Topology.workingSet, Collections.values_eq, List.nodup_flatMap]
  constructor
  · intro vertex member
    obtain ⟨entry, listed, rfl⟩ := List.mem_map.mp (List.mem_filter.mp member).1
    rw [keys listed]
    exact ExtTreeMap.nodup_keys
  · refine List.Pairwise.filter _ (List.pairwise_map.mpr ?_)
    refine ExtTreeMap.distinct_keys_toList.imp_of_mem fun {first second} here there different => ?_
    intro alarm one other
    dsimp only at one other
    rw [keys here, ExtTreeMap.mem_keys] at one
    rw [keys there, ExtTreeMap.mem_keys] at other
    obtain ⟨copy, found⟩ := Collections.exists_getElem? one
    obtain ⟨twin, again⟩ := Collections.exists_getElem? other
    have noted := indexed.noted (held here found)
    rw [indexed.noted (held there again)] at noted
    exact different (Option.some.inj noted ▸ compare_self)

/-- Active alarms are located at vertices of the topology. -/
theorem mem_vertices_of_active (wellFormed : graph.WellFormed) :
    ∀ located ∈ graph.activeAlarms, located.vertex ∈ graph.vertices := by
  intro located member
  obtain ⟨vertex, listed, member⟩ := List.mem_flatMap.mp member
  obtain ⟨alarm, _, rfl⟩ := List.mem_map.mp member
  obtain ⟨id, found⟩ := Collections.mem_values.mp (List.mem_filter.mp listed).1
  exact wellFormed.id_eq found ▸ Collections.mem_of_getElem? found

variable [Weight W] {parameters : Parameters W} {state next : EngineState W}

/-- What the state of every engine is like. -/
structure Sturdy (state : EngineState W) : Prop where
  wellFormed : state.graph.WellFormed
  indexed : state.HasIndex
  housed : state.ledger.Housed
  /-- No correlation has handed its inputs back. -/
  settled : state.pendingCollected = []

omit [Weight W] in
theorem sturdy_fresh (parameters : Parameters W) : (EngineState.fresh parameters).Sturdy where
  wellFormed := Topology.wellFormed_empty parameters.weights
  indexed := .fresh parameters
  housed := Ledger.housed_empty
  settled := rfl

/-- Clustering succeeds, and no alarm is in two clusters. -/
theorem Sturdy.cluster (sturdy : state.Sturdy) (parameters : Parameters W) :
    ∃ clusters, (state.cluster parameters).1 = .ok clusters ∧
      clusters.Pairwise Cluster.IsApart := by
  obtain ⟨clusters, came⟩ := parameters.clusterer.succeeds_clusters
    (mem_vertices_of_active sturdy.wellFormed) state.distances
  exact ⟨clusters, came,
    AlarmClusterer.apart_of_canReturn sturdy.indexed.nodup_ids (DistanceM.canReturn_of_run came)⟩

/-- A correlation succeeds, without a failure in any rule. -/
theorem Sturdy.correlate (sturdy : state.Sturdy) (parameters : Parameters W) (ids : IdSource)
    (summary : TickSummary) (collected : List Alarm) (feedback : List Feedback) :
    ∃ outcome ledger distances drawn,
      state.correlate parameters ids summary collected feedback =
        (.ok outcome, { state with ledger, distances }, drawn) ∧
      outcome.1.failures = [] ∧ ledger.Housed := by
  obtain ⟨clusters, clustered, apart⟩ := sturdy.cluster parameters
  have housed : (state.facts clusters collected feedback).ledger.Housed := sturdy.housed
  obtain ⟨complete, lodged⟩ :=
    Policy.evaluate_completes housed apart parameters.rules ids summary.time
  unfold EngineState.correlate
  have kept : (state.cluster parameters).2 =
      { state with distances := (state.cluster parameters).2.distances } := rfl
  generalize (state.cluster parameters).2.distances = distances at kept
  generalize state.cluster parameters = result at clustered kept ⊢
  obtain ⟨result, after⟩ := result
  simp only at clustered kept
  subst clustered kept
  refine ⟨_, _, _, _, rfl, ?_, ?_⟩
  · exact complete
  · exact Ledger.commit_housed sturdy.housed lodged state.graph distances

theorem Sturdy.beginTick (sturdy : state.Sturdy) (parameters : Parameters W) (now : Int) :
    (state.beginTick parameters now).1.Sturdy where
  wellFormed := sturdy.wellFormed.steps (steps_beginTick parameters state now)
  indexed := sturdy.indexed.moves (moves_beginTick parameters.weights parameters state now)
  housed := (beginTick_frame parameters state now).1 ▸ sturdy.housed
  settled := rfl

theorem Sturdy.finishTick (sturdy : state.Sturdy) (parameters : Parameters W) (ids : IdSource)
    (summary : TickSummary) (nothing : summary.failures = []) (collected : List Alarm) :
    ∃ outcome after drawn,
      state.finishTick parameters ids summary collected = (.ok outcome, after, drawn) ∧
        outcome.1.failures = [] ∧ after.ledger.Housed ∧ after.pendingCollected = [] := by
  rw [EngineState.finishTick]
  by_cases idle : state.isIdle
  · rw [if_pos idle]
    exact ⟨_, _, _, rfl, nothing, sturdy.housed, sturdy.settled⟩
  · rw [if_neg idle]
    have ready : Sturdy { state with pendingFeedback := [] } :=
      ⟨sturdy.wellFormed, sturdy.indexed, sturdy.housed, sturdy.settled⟩
    obtain ⟨outcome, ledger, distances, drawn, correlated, complete, housed⟩ :=
      ready.correlate parameters ids summary collected state.pendingFeedback
    dsimp only
    rw [correlated]
    exact ⟨_, _, _, rfl, complete, housed, sturdy.settled⟩

/-- A tick is refused and leaves everything as it was, or it succeeds. -/
theorem Sturdy.tick_cases (sturdy : state.Sturdy) (parameters : Parameters W) (ids : IdSource)
    (now : Int) :
    (∃ cause, state.checkTick now = .error cause ∧
      state.tick parameters ids now = (.error cause, state, ids)) ∨
    state.checkTick now = .ok () ∧ ∃ outcome after drawn,
      state.tick parameters ids now = (.ok outcome, after, drawn) ∧
        outcome.summary.failures = [] ∧ after.ledger.Housed ∧ after.pendingCollected = [] := by
  cases admitted : state.checkTick now with
  | error cause => exact .inl ⟨cause, rfl, by rw [EngineState.tick, admitted]⟩
  | ok granted =>
    refine .inr ⟨rfl, ?_⟩
    have begun := sturdy.beginTick parameters now
    generalize begins : state.beginTick parameters now = result at begun
    obtain ⟨begun', collected, expired⟩ := result
    obtain ⟨told, after, drawn, finished, complete, housed, settled⟩ :=
      begun.finishTick parameters ids { time := now, garbageCollected := collected.length } rfl
        collected
    exact ⟨_, after, drawn, tick_of_finished admitted begins finished, complete, housed, settled⟩

theorem load_frame {data : InitialData W} {counts : InitialCounts}
    (loaded : state.load data = .ok (next, counts)) :
    next.ledger = (state.ledger.loadAll data.situations).1 ∧
      next.pendingCollected = state.pendingCollected := by
  obtain ⟨_, rfl⟩ := load_spec loaded
  have frame := tryAlarms_frame { state with graph := (state.graph.addInventory data.inventory).1 }
    data.alarms
  exact ⟨congrArg (fun ledger : Ledger => (ledger.loadAll data.situations).1) frame.ledger_eq,
    frame.pendingCollected_eq⟩

theorem Quiet.housed (quiet : Quiet parameters state next) (housed : state.ledger.Housed) :
    next.ledger.Housed := by
  rcases quiet.ledger_cases with
    ⟨same, _⟩ | ⟨situations, _, same, _⟩ | ⟨id, same, _⟩ | ⟨same, _⟩ <;> rw [same]
  · exact housed
  · exact housed.loadAll situations
  · exact housed.delete id
  · exact Ledger.housed_empty

theorem Sturdy.step (sturdy : state.Sturdy) (step : Step parameters state next) :
    next.Sturdy := by
  have wellFormed := wellFormed_step sturdy.wellFormed step
  have indexed := sturdy.indexed.moves (moves_step step)
  cases step with
  | load loaded =>
    obtain ⟨ledger, settled⟩ := load_frame loaded
    exact ⟨wellFormed, indexed, ledger ▸ sturdy.housed.loadAll _, settled.trans sturdy.settled⟩
  | carryOut callback =>
    have quiet : Quiet parameters state _ := .carryOut callback
    refine ⟨wellFormed, indexed, quiet.housed sturdy.housed, ?_⟩
    cases callback with
    | alarm alarm => exact (tryAlarm_frame state alarm).pendingCollected_eq.trans sturdy.settled
    | clear alarm =>
      exact (tryAlarm_frame state alarm.clear).pendingCollected_eq.trans sturdy.settled
    | _ => exact sturdy.settled
  | destroy =>
    rw [destroy]
    split
    · exact sturdy
    · have fresh := sturdy_fresh parameters
      exact ⟨fresh.wellFormed, fresh.indexed, fresh.housed, fresh.settled⟩
  | distance a b => exact ⟨wellFormed, indexed, sturdy.housed, sturdy.settled⟩
  | tick ids now =>
    rcases sturdy.tick_cases parameters ids now with
      ⟨_, _, ticked⟩ | ⟨_, _, _, _, ticked, _, housed, settled⟩
    · rw [ticked]
      exact sturdy
    · rw [ticked] at wellFormed indexed ⊢
      exact ⟨wellFormed, indexed, housed, settled⟩

omit [Weight W] in
theorem checkTick_eq_ok {now : Int} :
    state.checkTick now = .ok () ↔ state.phase = .initialized ∧ state.clock ≤ now := by
  rw [checkTick]
  split <;> rename_i phase
  · simp [phase]
  · simp [phase]
  · simp [phase]

omit [Weight W] in
/-- What refuses a tick is a fault of the state. -/
theorem exists_cause_of_checkTick {now : Int} {fault : Fault}
    (refused : state.checkTick now = .error fault) : ∃ cause, fault = .state cause := by
  rw [checkTick] at refused
  split at refused
  · exact ⟨_, (Except.error.inj refused).symm⟩
  · exact ⟨_, (Except.error.inj refused).symm⟩
  · split at refused
    · exact ⟨_, (Except.error.inj refused).symm⟩
    · contradiction

end EngineState

/-- A tick that succeeds or fails for a fault of the state is not reported as unhealthy. -/
theorem Service.unhealthy_healthAfterTick (health : HealthRegistry) (now : Int)
    {result : Except Fault TickSummary}
    (ofState : ∀ fault, result = .error fault → ∃ cause, fault = .state cause)
    (name : String) (report : ComponentHealth)
    (found : (healthAfterTick health now result).components[name]? = some report)
    (unhealthy : report.status = .unhealthy) : health.components[name]? = some report := by
  have reported {registry : HealthRegistry} {component : String} {status : HealthStatus}
      (message : String) (better : status ≠ .unhealthy)
      (found : (registry.report component (.of status message)).components[name]? = some report) :
      registry.components[name]? = some report := by
    rw [HealthRegistry.report, ExtTreeMap.getElem?_insert] at found
    split at found
    · rw [← Option.some.inj found] at unhealthy
      exact absurd unhealthy better
    · exact found
  have registered {registry : HealthRegistry} {component : String}
      (found : (registry.register component).components[name]? = some report) :
      registry.components[name]? = some report :=
    have healthy : HealthStatus.healthy ≠ .unhealthy := by decide
    reported "" healthy found
  cases result with
  | error fault =>
    obtain ⟨cause, rfl⟩ := ofState fault rfl
    exact reported _ (by decide) found
  | ok summary =>
    rw [healthAfterTick] at found
    split at found
    · exact registered (registered found)
    · exact reported _ (by decide) found

namespace Engine

variable {W : Type} [Weight W]

theorem sturdy_performAll (parameters : Parameters W) (tickResolution : Int)
    (instanceName : String) (ids : IdSource) (calls : List (Call W)) :
    ((startWith parameters tickResolution instanceName ids).performAll calls).state.Sturdy :=
  (performAll_invariant EngineState.Sturdy (EngineState.sturdy_fresh parameters)
    (fun _ _ sturdy step => sturdy.step step) tickResolution instanceName ids calls).2

theorem Reachable.sturdy {parameters : Parameters W} {engine : Engine W}
    (reached : Reachable parameters engine) : engine.state.Sturdy := by
  induction reached with
  | start => exact EngineState.sturdy_fresh parameters
  | @perform engine _ call _ ih =>
    have steps := (perform_stepwise engine call).steps
    generalize (engine.perform call).state = after at steps ⊢
    induction steps with
    | refl => exact ih
    | tail _ taken before => exact before.step taken

/-- A tick succeeds just in case the engine runs and time does not go backwards. Then no rule fails
in it. Any other tick is refused for a fault of the state and leaves the engine as it was. Nothing
is ever handed back by a tick, and no tick makes a component unhealthy. -/
theorem tick_reliable (parameters : Parameters W) (tickResolution : Int) (instanceName : String)
    (ids : IdSource) (calls : List (Call W)) (now : Int) :
    let engine := (startWith parameters tickResolution instanceName ids).performAll calls
    ((∃ summary, (engine.tick now).2 = .ok summary) ↔
      engine.state.phase = .initialized ∧ engine.state.clock ≤ now) ∧
    (∀ summary, (engine.tick now).2 = .ok summary → summary.failures = []) ∧
    (∀ fault, (engine.tick now).2 = .error fault → (∃ cause, fault = .state cause) ∧
      (engine.tick now).1 = engine ∧ engine.state.checkTick now = .error fault) ∧
    engine.state.pendingCollected = [] ∧
    ∀ (health : HealthRegistry) (name : String) (report : ComponentHealth),
      (Service.healthAfterTick health now (engine.tick now).2).components[name]? = some report →
        report.status = .unhealthy → health.components[name]? = some report := by
  intro engine
  have sturdy : engine.state.Sturdy :=
    sturdy_performAll parameters tickResolution instanceName ids calls
  clear_value engine
  rcases sturdy.tick_cases engine.parameters engine.ids now with
    ⟨fault, refused, ticked⟩ | ⟨admitted, outcome, after, drawn, ticked, complete, _⟩
  · have answer : engine.tick now = (engine, .error fault) := by rw [tick, ticked]
    have ofState := EngineState.exists_cause_of_checkTick refused
    rw [answer, ← EngineState.checkTick_eq_ok, refused]
    refine ⟨⟨?_, ?_⟩, ?_, fun other same => ?_, sturdy.settled,
      fun health => Service.unhealthy_healthAfterTick health now fun other same => ?_⟩
    · rintro ⟨_, absurd⟩
      contradiction
    · intro absurd
      contradiction
    · intro _ absurd
      contradiction
    · rw [← Except.error.inj same]
      exact ⟨ofState, rfl, rfl⟩
    · rw [← Except.error.inj same]
      exact ofState
  · have answer : (engine.tick now).2 = .ok outcome.summary := by rw [tick, ticked]
    rw [answer, ← EngineState.checkTick_eq_ok, admitted]
    refine ⟨⟨fun _ => rfl, fun _ => ⟨_, rfl⟩⟩, fun summary same => ?_, ?_, sturdy.settled,
      fun health => Service.unhealthy_healthAfterTick health now ?_⟩
    · rw [← Except.ok.inj same]
      exact complete
    · intro _ absurd
      contradiction
    · intro _ absurd
      contradiction

end Engine
end FaultCorrelation
