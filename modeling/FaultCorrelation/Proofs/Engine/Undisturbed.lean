import Mathlib.Data.List.Induction
import FaultCorrelation.Proofs.Distance.Transparency
import FaultCorrelation.Proofs.Engine.Step
import FaultCorrelation.Proofs.Topology.Activity

/-! # What happens between correlations

An engine that has its initial records and is not dirty owes what it holds to a tick that has
correlated. Since then neither the edges nor the active alarms of its topology have changed, and
nothing has happened to its ledger but that situations have been deleted.
-/

namespace FaultCorrelation

open Std

variable {W : Type}

namespace EngineState

/-- What stays the same between correlations: edges, active alarms, and the situations and
memberships that are left. -/
structure Undisturbed (before after : EngineState W) : Prop where
  edges_eq : after.graph.edges = before.graph.edges
  active_eq : after.graph.activeAlarms = before.graph.activeAlarms
  situation_of {id : String} {situation : Situation} :
    after.ledger.situations[id]? = some situation → before.ledger.situations[id]? = some situation
  home_of {alarm home : String} :
    after.ledger.homes[alarm]? = some home → before.ledger.homes[alarm]? = some home
  home_kept {alarm home : String} : before.ledger.homes[alarm]? = some home →
    home ∈ after.ledger.situations → after.ledger.homes[alarm]? = some home

namespace Undisturbed

variable {before between after : EngineState W}

theorem of_ledger (edges : after.graph.edges = before.graph.edges)
    (active : after.graph.activeAlarms = before.graph.activeAlarms)
    (ledger : after.ledger = before.ledger) : Undisturbed before after where
  edges_eq := edges
  active_eq := active
  situation_of found := ledger ▸ found
  home_of found := ledger ▸ found
  home_kept found _ := ledger.symm ▸ found

theorem refl (state : EngineState W) : Undisturbed state state := of_ledger rfl rfl rfl

theorem trans (first : Undisturbed before between) (second : Undisturbed between after) :
    Undisturbed before after where
  edges_eq := second.edges_eq.trans first.edges_eq
  active_eq := second.active_eq.trans first.active_eq
  situation_of found := first.situation_of (second.situation_of found)
  home_of found := first.home_of (second.home_of found)
  home_kept found there := by
    obtain ⟨situation, present⟩ := Collections.exists_getElem? there
    have known := Collections.mem_of_getElem? (second.situation_of present)
    exact second.home_kept (first.home_kept found known) there

theorem delete (state : EngineState W) (id : String) :
    Undisturbed state { state with ledger := state.ledger.delete id } where
  edges_eq := rfl
  active_eq := rfl
  situation_of found := (state.ledger.getElem?_situations_delete found).2
  home_of found := by
    simp only [Ledger.delete, ExtTreeMap.getElem?_filter', Option.filter_eq_some_iff] at found
    exact found.1
  home_kept found there := by
    have different := (ExtTreeMap.mem_erase.mp there).1
    simp only [Ledger.delete, ExtTreeMap.getElem?_filter', Option.filter_eq_some_iff, bne_iff_ne]
    exact ⟨found, fun same => different (same ▸ compare_self)⟩

/-- A batch of inventory that changes no edge. -/
theorem of_batch {state : EngineState W} {after : Topology W × InventoryChange}
    (wellFormed : state.graph.WellFormed) (batch : Topology.Batch (state.graph, {}) after)
    (same : after.2.changedEdges = false) (dirty : Bool) :
    Undisturbed state { state with graph := after.1, dirty } := by
  have counted := Topology.generation_batch batch
  have none : after.2.edgeChanges = 0 := by
    simp only [InventoryChange.changedEdges, decide_eq_false_iff_not] at same
    rw [InventoryChange.edgeChanges]
    omega
  have generation : after.1.generation = state.graph.generation := by
    rw [none] at counted
    exact counted
  have follows := Topology.follows_steps (Topology.steps_of_batch batch)
  exact of_ledger (follows.edges_eq generation) (Topology.activeAlarms_batch wellFormed batch) rfl

end Undisturbed

section Quiet

variable [Weight W] {parameters : Parameters W} {state next : EngineState W}

theorem Quiet.wellFormed (quiet : Quiet parameters state next)
    (wellFormed : state.graph.WellFormed) : next.graph.WellFormed := by
  have step {next : EngineState W} (step : Step parameters state next) : next.graph.WellFormed :=
    wellFormed_step wellFormed step
  cases quiet with
  | load _ loaded => exact step (.load loaded)
  | carryOut callback => exact step (.carryOut callback)
  | destroy => exact step .destroy
  | distance distances => exact wellFormed

omit [Weight W] in
theorem tryAlarm_of_clean {alarm : Alarm} (clean : (state.tryAlarm alarm).1.dirty = false) :
    (state.tryAlarm alarm).1 = state := by
  rcases state.tryAlarm_cases alarm with ⟨_, same⟩ | ⟨_, _, _, _, _, _, same⟩
  · exact same
  · rw [same] at clean
    contradiction

/-- A quiet step of a running engine that does not make it dirty leaves it undisturbed. -/
theorem Quiet.undisturbed (quiet : Quiet parameters state next)
    (wellFormed : state.graph.WellFormed) (running : next.phase = .initialized)
    (clean : next.dirty = false) :
    state.phase = .initialized ∧ state.dirty = false ∧ Undisturbed state next := by
  have stays {other : EngineState W} (same : other = state) (running : other.phase = .initialized)
      (clean : other.dirty = false) :
      state.phase = .initialized ∧ state.dirty = false ∧ Undisturbed state other :=
    same ▸ ⟨same ▸ running, same ▸ clean, .refl _⟩
  cases quiet with
  | load keyed loaded =>
    rw [(load_spec loaded).2] at clean
    contradiction
  | carryOut callback =>
    cases callback with
    | alarm alarm => exact stays (tryAlarm_of_clean clean) running clean
    | clear alarm => exact stays (tryAlarm_of_clean clean) running clean
    | addInventory objects =>
      have batch := Topology.batch_addInventory wellFormed objects
      obtain ⟨clean, same⟩ := Bool.or_eq_false_iff.mp clean
      exact ⟨running, clean, .of_batch wellFormed batch (Bool.or_eq_false_iff.mp same).2 _⟩
    | removeInventory objects =>
      have batch := Topology.batch_removeInventory wellFormed objects
      obtain ⟨clean, same⟩ := Bool.or_eq_false_iff.mp clean
      exact ⟨running, clean, .of_batch wellFormed batch (Bool.or_eq_false_iff.mp same).2 _⟩
    | feedback feedback => exact ⟨running, clean, .of_ledger rfl rfl rfl⟩
    | deleteSituation id => exact ⟨running, clean, .delete state id⟩
  | destroy =>
    rw [EngineState.destroy] at running clean ⊢
    by_cases destroyed : state.phase = .destroyed
    · rw [if_pos destroyed] at running clean ⊢
      exact stays rfl running clean
    · rw [if_neg destroyed] at running
      contradiction
  | distance distances => exact ⟨running, clean, .of_ledger rfl rfl rfl⟩

end Quiet

section Ticks

variable {parameters : Parameters W} {state : EngineState W} {now : Int}

/-- Garbage collection that finds nothing leaves everything as it is. -/
theorem collectGarbage_of_nil (none : (state.collectGarbage parameters now).2 = []) :
    (state.collectGarbage parameters now).1 = state := by
  let step : EngineState W × List Alarm → LocatedAlarm → EngineState W × List Alarm :=
    fun before located => before.1.collectAlarm before.2 located
  let expired := state.graph.activeAlarms.filter fun located =>
    parameters.isExpired now located.alarm
  change (expired.foldl step (state, [])).1 = state
  have collected : (expired.foldl step (state, [])).2 = [] := by
    have sorted : Sorting.sortBy byId (expired.foldl step (state, [])).2 = [] := none
    rw [← List.length_eq_zero_iff, ← Sorting.length_sortBy byId, sorted, List.length_nil]
  -- What has been collected stays collected.
  suffices either : (expired.foldl step (state, [])).1 = state ∨
      (expired.foldl step (state, [])).2 ≠ [] from either.resolve_right (not_not_intro collected)
  refine List.foldlRecOn expired step (motive := fun (before : EngineState W × List Alarm) =>
    before.1 = state ∨ before.2 ≠ []) (.inl rfl) ?_
  intro before same located _
  simp only [step]
  rw [collectAlarm]
  split
  · exact same
  · exact .inr (by simp)

/-- A tick that finds nothing to do has only moved the clock. -/
theorem beginTick_of_idle (idle : (state.beginTick parameters now).1.isIdle) :
    state.dirty = false ∧ (state.beginTick parameters now).1 = { state with
      clock := now, graph := { state.graph with clock := now }, pendingCollected := [] } := by
  let moved : EngineState W :=
    { state with clock := now, graph := { state.graph with clock := now } }
  have begun : (state.beginTick parameters now).1 = { (moved.collectGarbage parameters now).1 with
      pendingCollected := []
      dirty := (moved.collectGarbage parameters now).1.dirty ||
        !(moved.collectGarbage parameters now).2.isEmpty } := rfl
  have found : (moved.collectGarbage parameters now).2 = [] →
      (moved.collectGarbage parameters now).1 = moved := collectGarbage_of_nil
  rw [begun] at idle ⊢
  generalize moved.collectGarbage parameters now = result at idle found ⊢
  rw [isIdle, Bool.and_eq_true, Bool.not_eq_true'] at idle
  obtain ⟨clean, nothing⟩ := Bool.or_eq_false_iff.mp idle.1
  rw [Bool.not_eq_false', List.isEmpty_iff] at nothing
  rw [found nothing, nothing]
  rw [found nothing] at clean
  exact ⟨clean, congrArg (fun dirty => { moved with pendingCollected := [], dirty })
    (Bool.or_false state.dirty)⟩

variable [Weight W]

/-- How a tick ends: it is refused, it finds nothing to do, its clustering fails, or it
correlates. -/
inductive TickEnd (parameters : Parameters W) (state : EngineState W) (ids : IdSource)
    (now : Int) : Prop where
  | refused {cause : Fault}
      (ticked : state.tick parameters ids now = (.error cause, state, ids))
  | skipped {outcome : TickOutcome} (admitted : state.checkTick now = .ok ())
      (idle : (state.beginTick parameters now).1.isIdle)
      (ticked : state.tick parameters ids now =
        (.ok outcome, (state.beginTick parameters now).1, ids))
      (skipped : outcome.summary.skipped = true)
  | failed {cause : Fault} (answer : (state.tick parameters ids now).1 = .error cause)
      (dirty : (state.tick parameters ids now).2.1.dirty = true)
  | correlated {facts : Facts} {outcome : TickOutcome}
      (found : state.tickFacts? parameters now = some facts)
      (clustered : ((state.beginTick parameters now).1.cluster parameters).1 = .ok facts.clusters)
      (graph_eq : (state.tick parameters ids now).2.1.graph =
        (state.beginTick parameters now).1.graph)
      (answer : (state.tick parameters ids now).1 = .ok outcome)
      (skipped : outcome.summary.skipped = false)

theorem tick_ends (parameters : Parameters W) (state : EngineState W) (ids : IdSource)
    (now : Int) : TickEnd parameters state ids now := by
  cases admitted : state.checkTick now with
  | error cause =>
    exact .refused (by rw [tick, admitted])
  | ok granted =>
    generalize begins : state.beginTick parameters now = begun
    obtain ⟨begun, collected, expired⟩ := begun
    have reached : (state.beginTick parameters now).1 = begun := congrArg Prod.fst begins
    let summary : TickSummary := { time := now, garbageCollected := collected.length }
    by_cases idle : begun.isIdle
    · have finished : begun.finishTick parameters ids summary collected =
          (.ok ({ summary with skipped := true }, []), begun, ids) := by
        rw [finishTick, if_pos idle]
      exact .skipped admitted (reached ▸ idle)
        (reached ▸ tick_of_finished admitted begins finished) rfl
    have quiet := congrArg Prod.fst (cluster_withoutFeedback parameters begun)
    cases clustered : (begun.cluster parameters).1 with
    | error cause =>
      have failed := correlate_of_error ids summary collected begun.pendingFeedback
        (quiet.trans clustered)
      have finished : ∃ after, after.dirty = true ∧
          begun.finishTick parameters ids summary collected = (.error cause, after, ids) := by
        rw [finishTick, if_neg idle]
        dsimp only
        rw [failed]
        exact ⟨_, rfl, rfl⟩
      obtain ⟨after, dirty, finished⟩ := finished
      have ticked := tick_of_finished admitted begins finished
      exact .failed (congrArg Prod.fst ticked) (ticked ▸ dirty)
    | ok clusters =>
      have found : state.tickFacts? parameters now =
          some (begun.facts clusters collected begun.pendingFeedback) := by
        rw [tickFacts?, admitted]
        dsimp only
        rw [begins]
        dsimp only
        rw [if_neg idle, clustered]
      obtain ⟨outcome, ticked, skipped, _⟩ :=
        tick_of_clustered ids admitted begins idle clustered
      refine .correlated found ?_ ?_ (congrArg Prod.fst ticked) skipped
      · rw [reached]
        exact clustered
      · rw [ticked, reached]

omit [Weight W] in
theorem undisturbed_of_idle (idle : (state.beginTick parameters now).1.isIdle) :
    Undisturbed state (state.beginTick parameters now).1 := by
  rw [(beginTick_of_idle idle).2]
  exact .of_ledger rfl (Topology.activeAlarms_of_vertices rfl) rfl

end Ticks
end EngineState

namespace Engine

open EngineState (Undisturbed)

variable [Weight W] {parameters : Parameters W} {origin engine : Engine W}

/-- Whether a tick succeeds and correlates. -/
def CorrelatesAt (engine : Engine W) (now : Int) : Prop :=
  ∃ summary, (engine.tick now).2 = .ok summary ∧ summary.skipped = false

/-- Whether none of the calls made in order is a tick that correlates. -/
def Dormant (engine : Engine W) : List (Call W) → Prop
  | [] => True
  | call :: rest =>
    (∀ now, call = .tick now → ¬ engine.CorrelatesAt now) ∧ (engine.perform call).Dormant rest

theorem dormant_append {done rest : List (Call W)} : engine.Dormant (done ++ rest) ↔
    engine.Dormant done ∧ (engine.performAll done).Dormant rest := by
  induction done generalizing engine with
  | nil => exact ⟨fun dormant => ⟨trivial, dormant⟩, And.right⟩
  | cons call done ih =>
    simp only [List.cons_append, Dormant, ih, and_assoc]
    rfl

/-- Whether a state is as the last tick that has correlated, of calls made in order, left it, but
for what does not matter to the next. -/
def LeftBy (origin : Engine W) (calls : List (Call W)) (state : EngineState W) : Prop :=
  ∃ done time rest, calls = done ++ .tick time :: rest ∧
    (origin.performAll done).CorrelatesAt time ∧
    ((origin.performAll done).tick time).1.Dormant rest ∧
    Undisturbed ((origin.performAll done).tick time).1.state state

namespace LeftBy

variable {calls : List (Call W)} {state next : EngineState W}

theorem follow (left : origin.LeftBy calls state) (undisturbed : Undisturbed state next) :
    origin.LeftBy calls next := by
  obtain ⟨done, time, rest, made, correlated, dormant, since⟩ := left
  exact ⟨done, time, rest, made, correlated, dormant, since.trans undisturbed⟩

theorem snoc (left : origin.LeftBy calls state) {call : Call W}
    (quiet : ∀ now, call = .tick now → ¬ (origin.performAll calls).CorrelatesAt now) :
    origin.LeftBy (calls ++ [call]) state := by
  obtain ⟨done, time, rest, rfl, correlated, dormant, since⟩ := left
  refine ⟨done, time, rest ++ [call], by simp, correlated, dormant_append.mpr ⟨dormant, ?_⟩, since⟩
  rw [performAll_append] at quiet
  exact ⟨quiet, trivial⟩

end LeftBy

/-- A tick of a clean engine correlates, or leaves it as the tick before has left it. -/
theorem LeftBy.tick {calls : List (Call W)} {now : Int}
    (before : (origin.performAll calls).state.phase = .initialized →
      (origin.performAll calls).state.dirty = false →
        origin.LeftBy calls (origin.performAll calls).state)
    (running : ((origin.performAll calls).tick now).1.state.phase = .initialized)
    (clean : ((origin.performAll calls).tick now).1.state.dirty = false) :
    origin.LeftBy (calls ++ [.tick now]) ((origin.performAll calls).tick now).1.state := by
  rw [phase_tick] at running
  have answer := tick_answer (origin.performAll calls) now
  have reached := (tick_eq (origin.performAll calls) now).2.1
  have quiet (idle : ¬ (origin.performAll calls).CorrelatesAt now) (time : Int)
      (same : (Call.tick now : Call W) = .tick time) :
      ¬ (origin.performAll calls).CorrelatesAt time := Call.tick.inj same ▸ idle
  cases EngineState.tick_ends (origin.performAll calls).parameters (origin.performAll calls).state
      (origin.performAll calls).ids now with
  | refused ticked =>
    rw [ticked] at answer reached
    rw [reached] at clean ⊢
    refine (before running clean).snoc (quiet ?_)
    rintro ⟨summary, told, _⟩
    rw [answer] at told
    contradiction
  | skipped _ idle ticked skipped =>
    rw [ticked] at answer reached
    rw [reached]
    have owed := before running (EngineState.beginTick_of_idle idle).1
    refine (owed.follow (EngineState.undisturbed_of_idle idle)).snoc (quiet ?_)
    rintro ⟨summary, told, correlated⟩
    rw [answer] at told
    rw [← Except.ok.inj told, skipped] at correlated
    contradiction
  | failed _ dirty =>
    rw [reached, dirty] at clean
    contradiction
  | correlated _ _ _ told correlated =>
    rw [told] at answer
    exact ⟨calls, now, [], rfl, ⟨_, answer, correlated⟩, trivial, .refl _⟩

theorem wellFormed_performAll (parameters : Parameters W) (tickResolution : Int)
    (instanceName : String) (ids : IdSource) (calls : List (Call W)) :
    let origin := startWith parameters tickResolution instanceName ids
    (origin.performAll calls).state.graph.WellFormed :=
  (performAll_invariant (fun state => state.graph.WellFormed)
    (Topology.wellFormed_empty parameters.weights) (fun _ _ => EngineState.wellFormed_step)
    tickResolution instanceName ids calls).2

/-- A running engine that is not dirty is as the last tick that has correlated left it. -/
theorem leftBy_of_clean (tickResolution : Int) (instanceName : String) (ids : IdSource)
    {calls : List (Call W)}
    (admitted : (startWith parameters tickResolution instanceName ids).AdmitsAll calls) :
    let origin := startWith parameters tickResolution instanceName ids
    (origin.performAll calls).state.phase = .initialized →
      (origin.performAll calls).state.dirty = false →
        origin.LeftBy calls (origin.performAll calls).state := by
  intro origin
  induction calls using List.reverseRecOn with
  | nil =>
    intro running
    contradiction
  | append_singleton calls call ih =>
    obtain ⟨earlier, admitted⟩ := admitsAll_append.mp admitted
    have step : origin.performAll (calls ++ [call]) = (origin.performAll calls).perform call :=
      performAll_append origin calls [call]
    have before := ih earlier
    rw [step]
    by_cases ticks : ∃ now, call = .tick now
    · obtain ⟨now, rfl⟩ := ticks
      exact LeftBy.tick before
    · -- Between ticks what was left is left quietly.
      have quietly := perform_quietly _ admitted.1 fun now same => ticks ⟨now, same⟩
      have kept := quietly.keeps
        (fun state => state.graph.WellFormed ∧
          (state.phase = .initialized → state.dirty = false → origin.LeftBy calls state))
        (fun state next both quiet => ⟨quiet.wellFormed both.1, fun running clean => by
          obtain ⟨ran, clean, undisturbed⟩ := quiet.undisturbed both.1 running clean
          exact (both.2 ran clean).follow undisturbed⟩)
        ⟨wellFormed_performAll parameters tickResolution instanceName ids calls, before⟩
      exact fun running clean => (kept.2 running clean).snoc fun now same =>
        absurd ⟨now, same⟩ ticks

end Engine
end FaultCorrelation
