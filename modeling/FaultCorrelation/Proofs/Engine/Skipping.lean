import FaultCorrelation.Proofs.Engine.Correlation
import FaultCorrelation.Proofs.Engine.Remembering
import FaultCorrelation.Proofs.Engine.Rest
import FaultCorrelation.Proofs.Engine.Undisturbed

/-! # Ticks that are skipped

A tick is skipped if the engine is not dirty and no feedback waits. Skipping is meant to go
unnoticed: the correlation that is left out would have changed nothing. With the default policy that
is so just in case every alarm of the clusters has a situation and no cluster by itself calls for
another severity of some situation.

The tick that has correlated last has seen to both, but for its laggards, and the clusters are still
the same. So an alarm of the clusters is without a situation just in case its situation has been
deleted since, which makes no engine dirty; and only laggards can call for another severity.
-/

namespace FaultCorrelation

open Std

variable {W : Type} [Weight W] {parameters : Parameters W}

namespace EngineState

variable {state next : EngineState W}

/-- Clustering comes to the same where edges and active alarms are the same. -/
theorem cluster_eq [Weight.IsExact W] (here : state.Remembers) (there : next.Remembers)
    (edges : next.graph.edges = state.graph.edges)
    (active : next.graph.activeAlarms = state.graph.activeAlarms)
    (positive : state.graph.NonNegative) (parameters : Parameters W) :
    (next.cluster parameters).1 = (state.cluster parameters).1 := by
  obtain ⟨clusters, one, other⟩ := parameters.clusterer.clusters_concur here.wellFormed
    there.wellFormed edges positive (mem_vertices_of_active here.wellFormed)
    (active ▸ mem_vertices_of_active there.wellFormed)
  rw [cluster, cluster, active]
  exact (other _ there.fits).1.trans (one _ here.fits).1.symm

namespace Undisturbed

variable {before after : EngineState W} {cluster : Cluster}

omit [Weight W] in
theorem steady (undisturbed : Undisturbed before after) (steady : before.ledger.Steady cluster) :
    after.ledger.Steady cluster :=
  fun id situation found => steady id situation (undisturbed.situation_of found)

omit [Weight W] in
/-- Alarms lose their situations when these are deleted. -/
theorem houses_iff (undisturbed : Undisturbed before after) (housed : after.ledger.Housed)
    (houses : before.ledger.Houses cluster) : after.ledger.Houses cluster ↔
      ∀ located ∈ cluster, ∀ home : String,
        before.ledger.homes[located.alarm.id]? = some home → home ∈ after.ledger.situations := by
  constructor
  · intro still located member home belonged
    obtain ⟨same, belongs⟩ := Collections.exists_getElem? (still located member)
    obtain rfl := Option.some.inj (belonged.symm.trans (undisturbed.home_of belongs))
    exact housed.home_known belongs
  · intro there located member
    obtain ⟨home, belonged⟩ := Collections.exists_getElem? (houses located member)
    have kept := undisturbed.home_kept belonged (there located member home belonged)
    exact Collections.mem_of_getElem? kept

end Undisturbed
end EngineState

namespace Engine

open EngineState (Undisturbed)

variable {engine : Engine W} {now : Int}

/-- What a tick that correlates finds. -/
theorem CorrelatesAt.exists_facts (correlates : engine.CorrelatesAt now) : ∃ facts,
    engine.state.tickFacts? engine.parameters now = some facts ∧
      ((engine.state.beginTick engine.parameters now).1.cluster engine.parameters).1 =
        .ok facts.clusters ∧
      (engine.tick now).1.state.graph = (engine.state.beginTick engine.parameters now).1.graph := by
  obtain ⟨summary, answer, correlated⟩ := correlates
  rw [tick_answer] at answer
  rw [(tick_eq engine now).2.1]
  cases EngineState.tick_ends engine.parameters engine.state engine.ids now with
  | refused ticked =>
    rw [ticked] at answer
    contradiction
  | skipped _ _ ticked skipped =>
    rw [ticked] at answer
    rw [← Except.ok.inj answer, skipped] at correlated
    contradiction
  | failed told =>
    rw [told] at answer
    contradiction
  | correlated found clustered graph => exact ⟨_, found, clustered, graph⟩

/-- A tick that is skipped has found nothing to do. -/
theorem skipped_idle {summary : TickSummary} (ticked : (engine.tick now).2 = .ok summary)
    (skipped : summary.skipped = true) : engine.state.phase = .initialized ∧
    (engine.state.beginTick engine.parameters now).1.isIdle ∧
      (engine.tick now).1.state = (engine.state.beginTick engine.parameters now).1 := by
  rw [tick_answer] at ticked
  rw [(tick_eq engine now).2.1]
  cases EngineState.tick_ends engine.parameters engine.state engine.ids now with
  | refused answer =>
    rw [answer] at ticked
    contradiction
  | skipped admitted idle answer =>
    rw [answer]
    exact ⟨(EngineState.checkTick_eq_ok.mp admitted).1, idle, rfl⟩
  | failed told =>
    rw [told] at ticked
    contradiction
  | correlated _ _ _ told correlated =>
    rw [told] at ticked
    rw [← Except.ok.inj ticked, correlated] at skipped
    contradiction

/-- A tick without laggards leaves all copies of the alarms of its clusters up to date. -/
theorem Reachable.steady_clusters (reached : Reachable parameters engine)
    (default : parameters.rules = Rule.defaultOrder) (fresh : engine.DrawsFresh now)
    {facts : Facts} (found : engine.state.tickFacts? engine.parameters now = some facts)
    (prompt : engine.laggards now = []) :
    ∀ cluster ∈ facts.clusters, (engine.tick now).1.state.ledger.Steady cluster := by
  intro cluster listed id situation known
  have coherent : (engine.tick now).1.state.ledger.Coherent :=
    (reached.perform (.tick now) fresh).ledger_coherent default
  have same : situation.alarms.overlaid cluster.instance? = situation.alarms := by
    refine AlarmMap.overlaid_of_current fun alarm copy active shown held => ?_
    obtain ⟨located, present, rfl⟩ := Option.map_eq_some_iff.mp held
    have named := List.find?_some present
    obtain rfl := beq_iff_eq.mp named
    have displayed : (engine.tick now).1.state.ledger.copy? id located.alarm.id = some copy := by
      rw [Ledger.copy?, known, Option.bind_some, shown]
    exact reached.copy_eq_clustered default fresh found listed (List.mem_of_find?_eq_some present)
      (by simp [prompt]) displayed
  rw [same, coherent.severity_eq known]
  rfl

/-- Where the state is undisturbed since a tick that has correlated, exact weights make the clusters
those of the tick. -/
theorem Reachable.clusters_since [Weight.IsExact W] (reached : Reachable parameters engine)
    (remembers : engine.state.Remembers) {facts : Facts}
    (came : ((engine.state.beginTick engine.parameters now).1.cluster engine.parameters).1 =
      .ok facts.clusters)
    (graph : (engine.tick now).1.state.graph =
      (engine.state.beginTick engine.parameters now).1.graph) {state : EngineState W}
    (since : Undisturbed (engine.tick now).1.state state) (remembering : state.Remembers)
    (positive : state.graph.NonNegative) :
    (state.cluster parameters).1 = .ok facts.clusters := by
  have edges := since.edges_eq
  have active := since.active_eq
  rw [graph] at edges active
  rw [reached.parameters_eq] at came edges active
  rw [← came]
  exact EngineState.cluster_eq (remembers.beginTick parameters now) remembering edges active
    (positive.congr edges.symm) parameters

/-- Where the state is undisturbed since a tick that has correlated, the alarms of the tick's
clusters have situations as far as these are still there, and only laggards call for another
severity. -/
theorem Reachable.settled_since (reached : Reachable parameters engine)
    (default : parameters.rules = Rule.defaultOrder) (fresh : engine.DrawsFresh now)
    (sturdy : engine.state.Sturdy) {facts : Facts}
    (found : engine.state.tickFacts? engine.parameters now = some facts) {state : EngineState W}
    (since : Undisturbed (engine.tick now).1.state state) (housed : state.ledger.Housed) :
    ((∀ cluster ∈ facts.clusters, state.ledger.Houses cluster) ↔
      ∀ cluster ∈ facts.clusters, ∀ located ∈ cluster, ∀ home : String,
        (engine.tick now).1.state.ledger.homes[located.alarm.id]? = some home →
          home ∈ state.ledger.situations) ∧
    (engine.laggards now = [] → ∀ cluster ∈ facts.clusters, state.ledger.Steady cluster) := by
  have houses : ∀ cluster ∈ facts.clusters, (engine.tick now).1.state.ledger.Houses cluster :=
    fun _ listed _ member =>
      mem_homes_of_clustered (reached.parameters_eq ▸ default) sturdy found listed member
  refine ⟨?_, fun prompt cluster listed =>
    since.steady (reached.steady_clusters default fresh found prompt cluster listed)⟩
  exact forall_congr' fun cluster => forall_congr' fun listed =>
    since.houses_iff housed (houses cluster listed)

/-- The correlation that a skipped tick leaves out would have changed nothing just in case all
alarms of the clusters have situations and no cluster by itself calls for another severity of one of
them.

There has been a tick that has correlated, and the clusters are still those of the last one if
weights are exact. Then an alarm of the clusters is without a situation just in case the situation
in which that tick has left it is gone; and no cluster calls for another severity if that tick has
left no laggards. -/
theorem skipped_tick_rests_iff (default : parameters.rules = Rule.defaultOrder)
    (tickResolution : Int) (instanceName : String) (ids : IdSource) {calls : List (Call W)}
    (admitted : (startWith parameters tickResolution instanceName ids).AdmitsAll calls)
    {now : Int} {summary : TickSummary}
    (ticked : (((startWith parameters tickResolution instanceName ids).performAll calls).tick
      now).2 = .ok summary) (skipped : summary.skipped = true) :
    let origin := startWith parameters tickResolution instanceName ids
    let engine := origin.performAll calls
    let state := (engine.tick now).1.state
    ∃ clusters, (state.cluster parameters).1 = .ok clusters ∧
      (state.RestsAt parameters engine.ids now ↔
        ∀ cluster ∈ clusters, state.ledger.Houses cluster ∧ state.ledger.Steady cluster) ∧
      ∃ done time rest facts, calls = done ++ .tick time :: rest ∧
        let earlier := origin.performAll done
        let left := (earlier.tick time).1
        earlier.state.tickFacts? parameters time = some facts ∧ left.Dormant rest ∧
        (Weight.IsExact W → state.graph.NonNegative → clusters = facts.clusters) ∧
        (clusters = facts.clusters →
          ((∀ cluster ∈ clusters, state.ledger.Houses cluster) ↔
            ∀ cluster ∈ clusters, ∀ located ∈ cluster, ∀ home : String,
              left.state.ledger.homes[located.alarm.id]? = some home →
                home ∈ state.ledger.situations) ∧
          (earlier.laggards time = [] →
            ∀ cluster ∈ clusters, state.ledger.Steady cluster)) := by
  intro origin engine state
  have reached (calls : List (Call W)) (admitted : origin.AdmitsAll calls) :
      Reachable parameters (origin.performAll calls) :=
    (Reachable.start tickResolution instanceName ids).performAll admitted
  have sturdy := sturdy_performAll parameters tickResolution instanceName ids
  obtain ⟨running, idle, same⟩ := skipped_idle ticked skipped
  have same : state = (engine.state.beginTick parameters now).1 :=
    (reached calls admitted).parameters_eq ▸ same
  have idle : (engine.state.beginTick parameters now).1.isIdle :=
    (reached calls admitted).parameters_eq ▸ idle
  clear_value state
  subst same
  have coherent : (engine.state.beginTick parameters now).1.ledger.Coherent :=
    (EngineState.beginTick_frame parameters engine.state now).1 ▸
      (reached calls admitted).ledger_coherent default
  obtain ⟨clusters, clustered, rests⟩ :=
    ((sturdy calls).beginTick parameters now).rests_iff coherent default engine.ids now
  obtain ⟨done, time, rest, made, correlated, dormant, since⟩ :=
    (leftBy_of_clean tickResolution instanceName ids admitted running
      (EngineState.beginTick_of_idle idle).1).follow (EngineState.undisturbed_of_idle idle)
  obtain ⟨facts, found, came, graph⟩ := correlated.exists_facts
  obtain ⟨earlier, fresh, _⟩ := admitsAll_append.mp (made ▸ admitted)
  have before := reached done earlier
  refine ⟨clusters, clustered, rests, done, time, rest, facts, made, before.parameters_eq ▸ found,
    dormant, fun exactness positive => ?_, ?_⟩
  · have remembers := remembers_performAll parameters tickResolution instanceName ids
    have still := before.clusters_since (remembers done) came graph since
      ((remembers calls).beginTick parameters now) positive
    rw [clustered] at still
    exact Except.ok.inj still
  · rintro rfl
    exact before.settled_since default fresh (sturdy done) found since coherent.housed

instance : Weight.IsExact Nat where
  le_trans := Nat.le_trans
  le_antisymm := Nat.le_antisymm
  le_total := Nat.le_total
  lt_iff := Nat.not_le.symm
  add_le_add c less := Nat.add_le_add_right less c
  le_add _ := Nat.le_add_right _ _
  add_assoc := Nat.add_assoc
  add_comm := Nat.add_comm
  zero_add := Nat.zero_add

/-- An active alarm, and a situation without active alarms. -/
def sparingData : InitialData Nat :=
  { alarms := [nodeAlarm "a"], situations := [nodeSituation "s" 0 ["x"]] }

/-- A run in which the situation without active alarms is deleted. -/
def sparingCalls : List (Call Nat) :=
  [.init sparingData, .tick 0, .submit [.deleteSituation "s"]]

/-- The engine after these calls. -/
def sparingEngine : Engine Nat :=
  (startWith .whole 1000 "node" .counting).performAll sparingCalls

theorem sparingCalls_fresh : (nodeEngine ["a"] [nodeSituation "s" 0 ["x"]]).DrawsFresh 0 := by
  intro n lower upper
  have first : (nodeEngine ["a"] [nodeSituation "s" 0 ["x"]]).ids.next = 1 := by decide +kernel
  have drawn : ((nodeEngine ["a"] [nodeSituation "s" 0 ["x"]]).tick 0).1.ids.next = 2 := by
    decide +kernel
  obtain rfl : n = 1 := by omega
  decide +kernel

theorem sparingCalls_admitted :
    (startWith .whole 1000 "node" .counting).AdmitsAll sparingCalls := by
  refine ⟨fun situation member => ?_, sparingCalls_fresh, trivial, trivial⟩
  rw [List.mem_singleton.mp member]
  exact nodeSituation_keyed "s" 0 ["x"]

theorem skipped_tick_rests_iff_sparing :
    (∃ summary, (sparingEngine.tick 1).2 = .ok summary ∧ summary.skipped = true) ∧
      (sparingEngine.tick 1).1.state.RestsAt .whole sparingEngine.ids 1 := by
  obtain ⟨summary, ticked, skipped⟩ : ∃ summary,
    (sparingEngine.tick 1).2 = .ok summary ∧ summary.skipped = true :=
      exists_summary (by decide +kernel)
  refine ⟨⟨summary, ticked, skipped⟩, ?_⟩
  obtain ⟨clusters, clustered, rests, done, time, rest, facts, made, _, _, same, settled⟩ :=
    skipped_tick_rests_iff rfl 1000 "node" .counting sparingCalls_admitted ticked skipped
  obtain ⟨houses, steady⟩ := settled (same inferInstance (by decide +kernel))
  -- There is one tick only in the run.
  obtain ⟨rfl, rfl⟩ : done = [.init sparingData] ∧ time = 0 := by
    rcases done with _ | ⟨first, _ | ⟨second, _ | ⟨third, others⟩⟩⟩ <;> simp_all [sparingCalls]
  have named : ((sparingEngine.tick 1).1.state.cluster .whole).1.toOption.map (fun clusters =>
      clusters.flatMap fun cluster => cluster.map fun located => located.alarm.id) =
        some ["a"] := by
    decide +kernel
  rw [show ((sparingEngine.tick 1).1.state.cluster .whole).1 = _ from clustered] at named
  refine rests.mpr fun cluster listed => ⟨houses.mpr ?_ cluster listed, steady ?_ cluster listed⟩
  · intro cluster listed located member home belonged
    have alone : located.alarm.id = "a" := by
      rw [← List.mem_singleton, ← Option.some.inj named]
      exact List.mem_flatMap.mpr ⟨cluster, listed, List.mem_map_of_mem member⟩
    rw [alone] at belonged
    have started : ((nodeEngine ["a"] [nodeSituation "s" 0 ["x"]]).tick
        0).1.state.ledger.homes["a"]? = some "00000000-0000-4000-8000-000000000001" := by
      decide +kernel
    obtain rfl := Option.some.inj (belonged.symm.trans started)
    decide +kernel
  · decide +kernel

/-- A state in which a full correlation commits situations is not at rest. -/
theorem not_restsAt {state : EngineState Nat} {ids : IdSource} {now : Int}
    (stirs : (state.cluster .whole).1.toOption.map (fun clusters =>
      let clustered := (state.cluster .whole).2
      (clustered.commit (clustered.deliberate .whole ids now clusters [] []).1.draft).2.isEmpty) =
        some false) : ¬ state.RestsAt .whole ids now := by
  rintro ⟨clusters, clustered, nothing, _⟩
  rw [clustered] at stirs
  exact absurd ((List.isEmpty_iff.mpr nothing).symm.trans (Option.some.inj stirs)) (by decide)

/-- A run in which the situation that the first tick has started is deleted. -/
def deletingCalls : List (Call Nat) :=
  [.init { alarms := [nodeAlarm "a"] }, .tick 0,
    .submit [.deleteSituation "00000000-0000-4000-8000-000000000001"]]

/-- The engine after these calls. -/
def deletingEngine : Engine Nat :=
  (startWith .whole 1000 "node" .counting).performAll deletingCalls

theorem deletingCalls_admitted :
    (startWith .whole 1000 "node" .counting).AdmitsAll deletingCalls := by
  refine ⟨fun _ member => absurd member List.not_mem_nil, fun n _ _ => ?_, trivial, trivial⟩
  have nothing : (nodeEngine ["a"] []).state.ledger.situations.isEmpty = true := by decide +kernel
  change _ ∉ (nodeEngine ["a"] []).state.ledger.situations
  rw [ExtTreeMap.isEmpty_iff.mp nothing]
  exact ExtTreeMap.not_mem_empty

/-- The tick after the deletion is skipped, though it would start a situation for the alarm. -/
theorem deletion_goes_unnoticed :
    (startWith .whole 1000 "node" .counting).AdmitsAll deletingCalls ∧
      deletingEngine.state.phase = .initialized ∧
      (∃ summary, (deletingEngine.tick 1).2 = .ok summary ∧ summary.skipped = true) ∧
      ¬ (deletingEngine.tick 1).1.state.RestsAt .whole deletingEngine.ids 1 :=
  ⟨deletingCalls_admitted, by decide +kernel, exists_summary (by decide +kernel),
    not_restsAt (by decide +kernel)⟩

end Engine
end FaultCorrelation
