import FaultCorrelation.Proofs.Cluster.Concurrence
import FaultCorrelation.Proofs.Engine.Step

/-! # The remembered distances of an engine

With exact weights the table of every engine fits its topology: it is asked about no other one, and
what happens to the topology in between is noticed.
-/

namespace FaultCorrelation

open Weight (IsExact)

variable {W : Type} [Weight W]

/-- Entering a draft leaves a table that fits fitting. -/
theorem Ledger.fits_commit [IsExact W] {graph : Topology W} (wellFormed : graph.WellFormed)
    (ledger : Ledger) (draft : Draft) {cache : DistanceCache W} (fits : cache.Fits graph) :
    ((ledger.commit draft graph).run cache).2.Fits graph := by
  suffices finished : ∀ drafts : List SituationDraft,
      ((drafts.mapM (Ledger.finish graph)).run cache).2.Fits graph from finished _
  intro drafts
  induction drafts generalizing cache with
  | nil => exact fits
  | cons first rest ih =>
    rw [List.mapM_cons]
    exact ih (first.situation.keeps_diagnose wellFormed cache fits)

namespace EngineState

variable {parameters : Parameters W} {state next : EngineState W}

omit [Weight W] in
theorem distances_beginTick (parameters : Parameters W) (state : EngineState W) (now : Int) :
    (state.beginTick parameters now).1.distances = state.distances := by
  rw [beginTick, collectGarbage]
  refine List.foldlRecOn _ _ (motive := fun (before : EngineState W × List Alarm) =>
    before.1.distances = state.distances) rfl ?_
  rintro ⟨before, collected⟩ same located _
  dsimp only
  rw [collectAlarm]
  split <;> exact same

/-- Whether the remembered distances belong to the topology. -/
structure Remembers (state : EngineState W) : Prop where
  wellFormed : state.graph.WellFormed
  fits : state.distances.Fits state.graph

theorem remembers_fresh (parameters : Parameters W) : (EngineState.fresh parameters).Remembers where
  wellFormed := Topology.wellFormed_empty parameters.weights
  fits := DistanceCache.fits_ofCapacity _ _

/-- The topology may change if the table stays. -/
theorem Remembers.follow (remembers : state.Remembers)
    (steps : Topology.Steps state.graph next.graph) (same : next.distances = state.distances) :
    next.Remembers where
  wellFormed := remembers.wellFormed.steps steps
  fits := same ▸ remembers.fits.follow (Topology.follows_steps steps)

theorem Remembers.beginTick (remembers : state.Remembers) (parameters : Parameters W) (now : Int) :
    (state.beginTick parameters now).1.Remembers :=
  remembers.follow (steps_beginTick parameters state now)
    (distances_beginTick parameters state now)

theorem Remembers.load (remembers : state.Remembers) {data : InitialData W}
    {counts : InitialCounts} (loaded : state.load data = .ok (next, counts)) :
    next.Remembers := by
  obtain ⟨_, rfl⟩ := load_spec loaded
  have batch := Topology.batch_addInventory remembers.wellFormed data.inventory
  have added : Remembers { state with graph := (state.graph.addInventory data.inventory).1 } :=
    remembers.follow (Topology.steps_of_batch batch) rfl
  have held := added.follow (steps_tryAlarms _ data.alarms)
    (tryAlarms_frame _ data.alarms).distances_eq
  exact ⟨held.wellFormed, held.fits⟩

variable [IsExact W]

theorem Remembers.correlate (remembers : state.Remembers) (parameters : Parameters W)
    (ids : IdSource) (summary : TickSummary) (collected : List Alarm) (feedback : List Feedback) :
    (state.correlate parameters ids summary collected feedback).2.1.Remembers := by
  have clustered : (state.cluster parameters).2.Remembers :=
    ⟨remembers.wellFormed, parameters.clusterer.keeps_clusters remembers.wellFormed _ _
      remembers.fits⟩
  unfold EngineState.correlate
  generalize state.cluster parameters = result at clustered
  obtain ⟨_ | clusters, after⟩ := result
  · exact clustered
  · exact ⟨clustered.wellFormed,
      Ledger.fits_commit clustered.wellFormed after.ledger _ clustered.fits⟩

theorem Remembers.tick (remembers : state.Remembers) (parameters : Parameters W) (ids : IdSource)
    (now : Int) : (state.tick parameters ids now).2.1.Remembers := by
  have begun := remembers.beginTick parameters now
  rcases tick_state parameters state ids now with same | ⟨reached, origin, _, _, _, same⟩
  · rw [same]
    exact remembers
  have kept : reached.Remembers := by
    generalize (state.beginTick parameters now).1 = ready at begun origin
    rcases origin with rfl | ⟨summary, collected, feedback, same⟩
    · exact begun
    · have quiet : Remembers { ready with pendingFeedback := [] } := ⟨begun.wellFormed, begun.fits⟩
      rw [same]
      exact quiet.correlate parameters ids summary collected feedback
  rw [same]
  exact ⟨kept.wellFormed, kept.fits⟩

theorem Remembers.step (remembers : state.Remembers) (step : Step parameters state next) :
    next.Remembers := by
  cases step with
  | load loaded => exact remembers.load loaded
  | carryOut callback =>
    cases callback with
    | alarm alarm =>
      exact remembers.follow (steps_tryAlarm state alarm) (tryAlarm_frame state alarm).distances_eq
    | clear alarm =>
      exact remembers.follow (steps_tryAlarm state alarm.clear)
        (tryAlarm_frame state alarm.clear).distances_eq
    | addInventory objects =>
      have batch := Topology.batch_addInventory remembers.wellFormed objects
      exact remembers.follow (Topology.steps_of_batch batch) rfl
    | removeInventory objects =>
      have batch := Topology.batch_removeInventory remembers.wellFormed objects
      exact remembers.follow (Topology.steps_of_batch batch) rfl
    | _ => exact remembers.follow .refl rfl
  | destroy =>
    rw [destroy]
    split
    · exact remembers
    · exact ⟨Topology.wellFormed_empty parameters.weights, DistanceCache.fits_ofCapacity _ _⟩
  | distance a b =>
    exact ⟨remembers.wellFormed, (remembers.fits.distance remembers.wellFormed .ascending a b).1⟩
  | tick ids now => exact remembers.tick parameters ids now

end EngineState

theorem Engine.remembers_performAll [Weight.IsExact W] (parameters : Parameters W)
    (tickResolution : Int) (instanceName : String) (ids : IdSource) (calls : List (Call W)) :
    ((startWith parameters tickResolution instanceName ids).performAll calls).state.Remembers :=
  (performAll_invariant EngineState.Remembers (EngineState.remembers_fresh parameters)
    (fun _ _ remembers step => remembers.step step) tickResolution instanceName ids calls).2
end FaultCorrelation
