import FaultCorrelation.Proofs.Engine.Reliability
import FaultCorrelation.Proofs.Engine.Severity
import FaultCorrelation.Proofs.Policy.Labelling
import FaultCorrelation.Proofs.Policy.Seeding

/-! # Every active alarm is correlated

With the default policy, and where a single alarm is enough for a cluster, a tick that correlates
leaves no alarm of the topology without a situation. Each situation that it lists as created is that
of one cluster, of which no alarm belonged anywhere before, and no cluster has two. What an engine
is started from does not matter; the ids drawn have to be new and to differ from one another.
-/

namespace FaultCorrelation

open Std

variable {W : Type} [Weight W]

/-- Whether a situation shows exactly the alarms of a cluster. -/
def Ledger.Presents (ledger : Ledger) (id : String) (cluster : Cluster) : Prop :=
  ∀ (alarm : String) (copy : Alarm), ledger.copy? id alarm = some copy ↔
    copy.id = alarm ∧ ∃ located ∈ cluster, located.alarm = copy

namespace EngineState

variable {parameters : Parameters W} {state : EngineState W} {ids : IdSource} {now : Int}
  {facts : Facts}

/-- The clusters of a tick have no alarm in common. -/
theorem Correlates.apart (correlates : Correlates parameters state ids now facts)
    (sturdy : (state.tick parameters ids now).2.1.Sturdy) : facts.Apart := by
  obtain ⟨cache, ran⟩ := correlates.clustered
  exact AlarmClusterer.apart_of_canReturn sturdy.indexed.nodup_ids (DistanceM.canReturn_of_run ran)

/-- Alarms of a cluster with one id are one alarm. -/
theorem Correlates.alarm_eq (correlates : Correlates parameters state ids now facts)
    (sturdy : (state.tick parameters ids now).2.1.Sturdy) {cluster : Cluster}
    (listed : cluster ∈ facts.clusters) : ∀ one ∈ cluster, ∀ other ∈ cluster,
      one.alarm.id = other.alarm.id → one.alarm = other.alarm := by
  obtain ⟨cache, ran⟩ := correlates.clustered
  have active := AlarmClusterer.mem_of_canReturn (DistanceM.canReturn_of_run ran) cluster listed
  intro one here other there same
  exact sturdy.indexed.alarm_eq (active one here) (active other there) same

end EngineState

namespace Engine

/-- Whether the ids that a tick draws differ from one another. -/
def DrawsApart (engine : Engine W) (now : Int) : Prop :=
  ∀ m n, engine.ids.next ≤ m → m < n → n < (engine.tick now).1.ids.next →
    engine.ids.name m ≠ engine.ids.name n

section Tick

variable {engine : Engine W} {now : Int} {facts : Facts}
  (default : engine.parameters.rules = Rule.defaultOrder) (sturdy : engine.state.Sturdy)
  (found : engine.state.tickFacts? engine.parameters now = some facts)
include sturdy found

theorem apart_of_tickFacts : facts.Apart :=
  (EngineState.tick_of_some engine.ids found).apart (sturdy.step (.tick engine.ids now))

include default

theorem lodged_tickDraft : (engine.tickDraft now).Lodged engine.state.ledger := by
  have correlates := EngineState.tick_of_some engine.ids found
  have housed : facts.ledger.Housed := correlates.ledger_eq ▸ sturdy.housed
  rw [tickDraft_of_some default found, ← correlates.ledger_eq]
  exact (Policy.evaluate_completes housed (apart_of_tickFacts sturdy found) _ engine.ids now).2

/-- An alarm that is in a cluster has a situation after the tick. -/
theorem mem_homes_of_clustered {cluster : Cluster} (listed : cluster ∈ facts.clusters)
    {located : LocatedAlarm} (member : located ∈ cluster) :
    located.alarm.id ∈ (engine.tick now).1.state.ledger.homes := by
  have correlates := EngineState.tick_of_some engine.ids found
  obtain ⟨graph, cache, committed⟩ := correlates.committed
  rw [(tick_eq engine now).2.1, committed]
  refine Ledger.mem_homes_commit sturdy.housed (lodged_tickDraft default sturdy found)
    graph cache ?_
  rw [tickDraft_of_some default found, ← correlates.ledger_eq]
  exact Policy.finalDraft_houses (correlates.ledger_eq ▸ sturdy.housed)
    (apart_of_tickFacts sturdy found) now engine.ids cluster listed located member

/-- Where a single alarm is enough for a cluster, every alarm that a vertex holds has a situation
after the tick. -/
theorem exists_home_of_held (single : engine.parameters.clusterer.density.minPoints = 1)
    {vertex : VertexId} {alarm : String}
    (held : ((engine.tick now).1.state.graph.alarmAt? vertex alarm).isSome) :
    ∃ home, (engine.tick now).1.state.ledger.homes[alarm]? = some home ∧
      home ∈ (engine.tick now).1.state.ledger.situations := by
  have settled : (engine.tick now).1.state.Sturdy :=
    (tick_eq engine now).2.1 ▸ sturdy.step (.tick engine.ids now)
  obtain ⟨copy, held⟩ := Option.isSome_iff_exists.mp held
  obtain ⟨located, active, rfl⟩ := Topology.exists_mem_activeAlarms.mpr ⟨vertex, alarm, held⟩
  obtain ⟨cache, ran⟩ := (EngineState.tick_of_some engine.ids found).clustered
  rw [← (tick_eq engine now).2.1] at ran
  obtain ⟨cluster, listed, member⟩ := AlarmClusterer.covers_of_canReturn (Nat.le_of_eq single)
    (DistanceM.canReturn_of_run ran) located active
  obtain ⟨home, belongs⟩ := Collections.exists_getElem?
    (mem_homes_of_clustered default sturdy found listed member)
  rw [settled.indexed.named held] at belongs
  exact ⟨home, belongs, settled.housed.home_known belongs⟩

/-- What a tick lists as created is drafted as new, and stored. -/
theorem exists_drafted_of_created {summary : TickSummary}
    (ticked : (engine.tick now).2 = .ok summary) {id : String} (listed : id ∈ summary.created) :
    ∃ drafted situation, (engine.tickDraft now).situations[id]? = some drafted ∧ drafted.isNew ∧
      (engine.tick now).1.state.ledger.situations[id]? = some situation ∧
      situation.created = drafted.created ∧
      ∀ alarm, (engine.tick now).1.state.ledger.copy? id alarm = drafted.alarms[alarm]? := by
  have correlates := EngineState.tick_of_some engine.ids found
  have lodged := lodged_tickDraft default sturdy found
  obtain ⟨outcome, told, rfl⟩ := exists_outcome ticked
  obtain ⟨drafted, present, new⟩ :=
    (Draft.mem_newIds lodged).mp (correlates.created told listed)
  obtain ⟨graph, cache, committed⟩ := correlates.committed
  rw [(tick_eq engine now).2.1, committed]
  obtain ⟨text, stored⟩ := Ledger.commit_drafted sturdy.housed lodged graph cache present
  exact ⟨drafted, _, present, new, stored, rfl, Ledger.copy?_of_getElem? stored⟩

/-- What a tick lists as created comes from clusters without an alarm that belonged anywhere, and
no alarm is in two of them. -/
theorem sown_tickDraft (fresh : engine.DrawsFresh now) (distinct : engine.DrawsApart now) :
    (Policy.correctedDraft facts now).Sown facts (engine.tickDraft now) := by
  have correlates := EngineState.tick_of_some engine.ids found
  rw [tickDraft_of_some default found]
  refine Policy.finalDraft_sown (correlates.ledger_eq ▸ sturdy.housed)
    (drawsFresh_facts default found fresh) fun m n lower less upper => ?_
  apply distinct m n lower less
  rw [(tick_eq engine now).2.2, correlates.ids_eq, default]
  exact upper

/-- A situation that a tick lists as created has been created in it and shows the alarms of one
cluster, of which none belonged anywhere once feedback had been applied. -/
theorem exists_cluster_of_created (fresh : engine.DrawsFresh now) (distinct : engine.DrawsApart now)
    {summary : TickSummary} (ticked : (engine.tick now).2 = .ok summary) {id : String}
    (listed : id ∈ summary.created) :
    let after := (engine.tick now).1.state.ledger
    (∃ situation, after.situations[id]? = some situation ∧ situation.created = now) ∧
      ∃ cluster ∈ facts.clusters, after.Presents id cluster ∧ ∀ located ∈ cluster,
        (Policy.correctedDraft facts now).homeOf? facts.ledger located.alarm.id = none := by
  have correlates := EngineState.tick_of_some engine.ids found
  obtain ⟨drafted, situation, present, new, stored, time, copies⟩ :=
    exists_drafted_of_created default sturdy found ticked listed
  obtain ⟨cluster, chosen, _, rfl, belong⟩ :=
    (sown_tickDraft default sturdy found fresh distinct).seeded present new
  have started : (Policy.correctedDraft facts now).time = now :=
    (Policy.correctedDraft_resettles (correlates.ledger_eq ▸ sturdy.housed) now).time_eq
  refine ⟨⟨situation, stored, by rw [time, Cluster.seed_created, started]⟩, cluster, chosen,
    fun alarm copy => ?_, fun located member =>
      Option.not_isSome_iff_eq_none.mp (belong located member).1⟩
  rw [copies]
  exact Cluster.getElem?_seed_iff
    (correlates.alarm_eq (sturdy.step (.tick engine.ids now)) chosen)

/-- No two situations that a tick lists as created show the alarms of one cluster. -/
theorem eq_of_presents (fresh : engine.DrawsFresh now) (distinct : engine.DrawsApart now)
    {summary : TickSummary} (ticked : (engine.tick now).2 = .ok summary) {first second : String}
    (one : first ∈ summary.created) (other : second ∈ summary.created) {cluster : Cluster}
    (presents : (engine.tick now).1.state.ledger.Presents first cluster)
    (again : (engine.tick now).1.state.ledger.Presents second cluster) : first = second := by
  have sown := sown_tickDraft default sturdy found fresh distinct
  obtain ⟨drafted, _, present, new, _, _, copies⟩ :=
    exists_drafted_of_created default sturdy found ticked one
  obtain ⟨twin, _, present', new', _, _, copies'⟩ :=
    exists_drafted_of_created default sturdy found ticked other
  obtain ⟨origin, _, nonempty, rfl, _⟩ := sown.seeded present new
  -- The first situation shows some alarm of its cluster, and so does the second.
  obtain ⟨located, member⟩ := List.exists_mem_of_ne_nil _ nonempty
  have shown : located.alarm.id ∈
      (origin.seed first (Policy.correctedDraft facts now).time).alarms :=
    Cluster.mem_seed_iff.mpr ⟨located, member, rfl⟩
  obtain ⟨copy, held⟩ := Collections.exists_getElem? shown
  have displayed := (again _ _).mpr ((presents _ _).mp ((copies _).trans held))
  rw [copies'] at displayed
  exact sown.eq_of_shown present new present' new' shown (Collections.mem_of_getElem? displayed)

end Tick

/-- With the default policy, and where a single alarm is enough for a cluster, a tick that
correlates leaves every alarm of the topology in a situation of the ledger. What it lists as created
has been created in it and shows the alarms of one cluster, of which none belonged anywhere once
feedback had been applied; and no cluster has two situations created. -/
theorem active_alarms_correlated {parameters : Parameters W}
    (default : parameters.rules = Rule.defaultOrder)
    (single : parameters.clusterer.density.minPoints = 1) (tickResolution : Int)
    (instanceName : String) (ids : IdSource) (calls : List (Call W)) {now : Int}
    (fresh : ((startWith parameters tickResolution instanceName ids).performAll calls).DrawsFresh
      now)
    (distinct : ((startWith parameters tickResolution instanceName ids).performAll
      calls).DrawsApart now)
    {summary : TickSummary}
    (ticked : (((startWith parameters tickResolution instanceName ids).performAll calls).tick
      now).2 = .ok summary) (correlated : summary.skipped = false) :
    let engine := (startWith parameters tickResolution instanceName ids).performAll calls
    let after := (engine.tick now).1.state
    ∃ facts, engine.state.tickFacts? engine.parameters now = some facts ∧
      (∀ (vertex : VertexId) (alarm : String), (after.graph.alarmAt? vertex alarm).isSome →
        ∃ home, after.ledger.homes[alarm]? = some home ∧ home ∈ after.ledger.situations) ∧
      (∀ id ∈ summary.created,
        (∃ situation, after.ledger.situations[id]? = some situation ∧ situation.created = now) ∧
        ∃ cluster ∈ facts.clusters, after.ledger.Presents id cluster ∧ ∀ located ∈ cluster,
          (Policy.correctedDraft facts now).homeOf? facts.ledger located.alarm.id = none) ∧
      ∀ cluster ∈ facts.clusters, ∀ first ∈ summary.created, ∀ second ∈ summary.created,
        after.ledger.Presents first cluster → after.ledger.Presents second cluster →
          first = second := by
  intro engine after
  have sturdy : engine.state.Sturdy :=
    sturdy_performAll parameters tickResolution instanceName ids calls
  have same : engine.parameters = parameters :=
    parameters_performAll parameters tickResolution instanceName ids calls
  rw [← same] at default single
  obtain ⟨facts, found⟩ := exists_tickFacts? ticked correlated
  exact ⟨facts, found, fun _ _ held => exists_home_of_held default sturdy found single held,
    fun _ listed => exists_cluster_of_created default sturdy found fresh distinct ticked listed,
    fun _ _ _ one _ other presents again =>
      eq_of_presents default sturdy found fresh distinct ticked one other presents again⟩

/-- A run in which one of two alarms that are far apart has a situation from the start. -/
def besideCalls : List (Call Nat) :=
  [.init
    { alarms := [nodeAlarm "a", { nodeAlarm "b" with time := 1000000 }]
      situations := [nodeSituation "s" 0 ["a"]] }]

/-- The engine after these calls. -/
def besideEngine : Engine Nat :=
  (startWith .whole 1000 "node" .counting).performAll besideCalls

theorem besideEngine_draws : besideEngine.ids.next = 1 ∧ (besideEngine.tick 0).1.ids.next = 2 := by
  decide +kernel

theorem active_alarms_correlated_beside :
    besideEngine.DrawsFresh 0 ∧ besideEngine.DrawsApart 0 ∧
      let after := (besideEngine.tick 0).1.state
      ∃ summary, (besideEngine.tick 0).2 = .ok summary ∧ summary.skipped = false ∧
        summary.created = ["00000000-0000-4000-8000-000000000001"] ∧
        (∃ home, after.ledger.homes["b"]? = some home ∧ home ∈ after.ledger.situations) ∧
        ∃ situation, after.ledger.situations["00000000-0000-4000-8000-000000000001"]? =
          some situation ∧ situation.created = 0 := by
  obtain ⟨first, last⟩ := besideEngine_draws
  have fresh : besideEngine.DrawsFresh 0 := by
    intro n lower upper
    obtain rfl : n = 1 := by omega
    decide +kernel
  have distinct : besideEngine.DrawsApart 0 := by
    intro m n lower less upper
    omega
  have answer : (besideEngine.tick 0).2.toOption.map (fun summary =>
      (summary.skipped, summary.created)) =
        some (false, ["00000000-0000-4000-8000-000000000001"]) := by decide +kernel
  cases ticked : (besideEngine.tick 0).2 with
  | error cause =>
    rw [ticked] at answer
    contradiction
  | ok summary =>
    rw [ticked] at answer
    obtain ⟨correlated, created⟩ := Prod.mk.inj (Option.some.inj answer)
    obtain ⟨facts, _, homes, started, _⟩ := active_alarms_correlated rfl rfl 1000 "node" .counting
      besideCalls fresh distinct ticked correlated
    exact ⟨fresh, distinct, summary, rfl, correlated, created,
      homes 0 "b" (by decide +kernel), (started _ (by simp [created])).1⟩

end Engine
end FaultCorrelation
