import FaultCorrelation.Proofs.Cluster.Cover
import FaultCorrelation.Proofs.Engine.AlarmIndex
import FaultCorrelation.Proofs.Policy.Freshness

/-! # Severities and active alarms

Where every alarm is a core point, a tick with the default policy leaves each situation with the
severity that the active instances of its alarms call for, unless laggards stand in the way: alarms
whose cluster left the situation alone because it would not change the severity by itself. Two
clusters may do so although together they would change it. The severity then follows the active
instances just in case the instances of the laggards would not change it.
-/

namespace FaultCorrelation

open Std

/-- Alarms with the known instances in place of the copies. -/
def AlarmMap.overlaid (alarms : AlarmMap) (instance? : String → Option Alarm) : AlarmMap :=
  ExtTreeMap.map (fun id copy => (instance? id).getD copy) alarms

/-- Instances that are shown already are put in place of themselves. -/
theorem AlarmMap.overlaid_of_current {alarms : AlarmMap} {instance? : String → Option Alarm}
    (current : ∀ (id : String) (copy known : Alarm), alarms[id]? = some copy →
      instance? id = some known → copy = known) : alarms.overlaid instance? = alarms := by
  refine ExtTreeMap.ext_getElem? fun id => ?_
  rw [overlaid, ExtTreeMap.getElem?_map]
  cases shown : alarms[id]? with
  | none => rfl
  | some copy =>
    rw [Option.map_some]
    cases held : instance? id with
    | none => rfl
    | some known => rw [current id copy known shown held, Option.getD_some]

namespace Engine

variable {W : Type} [Weight W] {parameters : Parameters W} {engine : Engine W} {now : Int}

/-- The alarms that a tick leaves with outdated copies. -/
def laggards (engine : Engine W) (now : Int) : List String :=
  (engine.state.tickFacts? engine.parameters now).elim [] fun facts =>
    Rule.laggards facts (Policy.correctedDraft facts now) facts.clusters

/-- The active alarm of an id after a tick, if the tick left its copy outdated. -/
def lagging? (engine : Engine W) (now : Int) (id : String) : Option Alarm :=
  if id ∈ engine.laggards now then (engine.tick now).1.state.graph.instance? id else none

theorem exists_tickFacts? {summary : TickSummary} (ticked : (engine.tick now).2 = .ok summary)
    (correlated : summary.skipped = false) :
    ∃ facts, engine.state.tickFacts? engine.parameters now = some facts := by
  apply Option.ne_none_iff_exists'.mp
  intro nothing
  obtain ⟨_, _, skips⟩ := EngineState.tick_of_none engine.ids nothing
  obtain ⟨outcome, told, rfl⟩ := exists_outcome ticked
  rw [(skips outcome told).1] at correlated
  contradiction

/-- Copies of clustered alarms that do not lag are the instances in the cluster. -/
theorem Reachable.copy_eq_clustered (reached : Reachable parameters engine)
    (default : parameters.rules = Rule.defaultOrder) (fresh : engine.DrawsFresh now)
    {facts : Facts} (found : engine.state.tickFacts? engine.parameters now = some facts)
    {cluster : Cluster} (listed : cluster ∈ facts.clusters) {located : LocatedAlarm}
    (member : located ∈ cluster) (prompt : located.alarm.id ∉ engine.laggards now) {id : String}
    {copy : Alarm}
    (shown : (engine.tick now).1.state.ledger.copy? id located.alarm.id = some copy) :
    copy = located.alarm := by
  have coherent := reached.ledger_coherent default
  have indexed := (reached.perform (.tick now) fresh).hasIndex
  have correlates := EngineState.tick_of_some engine.ids found
  rw [← reached.parameters_eq] at default
  obtain ⟨drafted, committed⟩ := tick_committed default coherent fresh
  obtain ⟨cache, ran⟩ := correlates.clustered
  rw [← (tick_eq engine now).2.1] at ran
  have clustered := DistanceM.canReturn_of_run ran
  have brings : facts.Brings (engine.tick now).1.state.graph.instance? :=
    fun cluster member located present => indexed.instance?_eq
      (AlarmClusterer.mem_of_canReturn clustered cluster member located present)
  rw [laggards, found] at prompt
  have current := Policy.finalDraft_current (correlates.sound coherent)
    (drawsFresh_facts default found fresh) brings cluster listed located member prompt
  rw [committed.copy?_eq drafted, tickDraft_of_some default found, ← correlates.ledger_eq] at shown
  exact Option.some.inj ((current id copy shown).symm.trans (brings cluster listed located member))

/-- Copies of active alarms that do not lag are the active instances. -/
theorem Reachable.copy_eq_instance (reached : Reachable parameters engine)
    (default : parameters.rules = Rule.defaultOrder)
    (single : parameters.clusterer.density.minPoints = 1) (fresh : engine.DrawsFresh now)
    {facts : Facts} (found : engine.state.tickFacts? engine.parameters now = some facts)
    {id alarm : String} {copy active : Alarm} (prompt : alarm ∉ engine.laggards now)
    (shown : (engine.tick now).1.state.ledger.copy? id alarm = some copy)
    (held : (engine.tick now).1.state.graph.instance? alarm = some active) : copy = active := by
  rw [← reached.parameters_eq] at single
  obtain ⟨cache, ran⟩ := (EngineState.tick_of_some engine.ids found).clustered
  rw [← (tick_eq engine now).2.1] at ran
  obtain ⟨located, listed, rfl⟩ := Option.map_eq_some_iff.mp held
  have named := List.find?_some listed
  obtain rfl := beq_iff_eq.mp named
  obtain ⟨cluster, member, present⟩ := AlarmClusterer.covers_of_canReturn (Nat.le_of_eq single)
    (DistanceM.canReturn_of_run ran) located (List.mem_of_find?_eq_some listed)
  exact reached.copy_eq_clustered default fresh found member present prompt shown

/-- After a tick that correlates, a situation has the severity that the active instances of its
alarms call for just in case the instances of the laggards would not change its severity. -/
theorem Reachable.severity_follows_live_iff (reached : Reachable parameters engine)
    (default : parameters.rules = Rule.defaultOrder)
    (single : parameters.clusterer.density.minPoints = 1) (fresh : engine.DrawsFresh now)
    {summary : TickSummary} (ticked : (engine.tick now).2 = .ok summary)
    (correlated : summary.skipped = false) {id : String} {situation : Situation}
    (found : (engine.tick now).1.state.ledger.situations[id]? = some situation) :
    situation.severity =
        (situation.alarms.overlaid (engine.tick now).1.state.graph.instance?).severity ↔
      (situation.alarms.overlaid (engine.lagging? now)).severity = situation.alarms.severity := by
  obtain ⟨facts, correlates⟩ := exists_tickFacts? ticked correlated
  have coherent : (engine.tick now).1.state.ledger.Coherent :=
    (reached.perform (.tick now) fresh).ledger_coherent default
  have same : situation.alarms.overlaid (engine.tick now).1.state.graph.instance? =
      situation.alarms.overlaid (engine.lagging? now) := by
    apply ExtTreeMap.ext_getElem?
    intro alarm
    rw [AlarmMap.overlaid, AlarmMap.overlaid, ExtTreeMap.getElem?_map, ExtTreeMap.getElem?_map]
    cases shown : situation.alarms[alarm]? with
    | none => rfl
    | some copy =>
      rw [Option.map_some, Option.map_some, lagging?]
      split
      · rfl
      rename_i prompt
      cases held : (engine.tick now).1.state.graph.instance? alarm with
      | none => rfl
      | some active =>
        have displayed : (engine.tick now).1.state.ledger.copy? id alarm = some copy := by
          rw [Ledger.copy?, found, Option.bind_some, shown]
        rw [reached.copy_eq_instance default single fresh correlates prompt displayed held]
        rfl
  rw [same, coherent.severity_eq found, Situation.computedSeverity]
  exact eq_comm

/-- Two alarms that are far apart. -/
def distantAlarms : List Alarm :=
  [nodeAlarm "a",
    { nodeAlarm "b" with time := 1000000, resource := some ⟨["node", "n2"]⟩ }]

/-- An engine that starts from a situation with both, after both have been cleared. -/
def clearedEngine : Engine Nat :=
  ((startWith .whole 1000 "node" .counting).perform
    (.init { alarms := distantAlarms, situations := [situationOf "s" 0 distantAlarms] })).perform
    (.submit (distantAlarms.map .clear))

theorem clearedEngine_reachable : Reachable .whole clearedEngine := by
  refine ((Reachable.start 1000 "node" .counting).perform (.init _) ?_).perform (.submit _) trivial
  intro situation member
  rw [List.mem_singleton.mp member]
  exact situationOf_keyed "s" 0 distantAlarms

theorem clearedEngine_fresh : clearedEngine.DrawsFresh 0 := by
  intro n lower upper
  have drawn : (clearedEngine.tick 0).1.ids.next = clearedEngine.ids.next := by decide +kernel
  omega

theorem clearedEngine_ticked :
    ∃ summary, (clearedEngine.tick 0).2 = .ok summary ∧ summary.skipped = false :=
  exists_summary (by decide +kernel)

/-- Each of the two clears is in a cluster of its own, and neither brings the severity down. -/
theorem distant_clears_unnoticed :
    Reachable .whole clearedEngine ∧ clearedEngine.DrawsFresh 0 ∧
      (∃ summary, (clearedEngine.tick 0).2 = .ok summary ∧ summary.skipped = false) ∧
      ∃ situation, (clearedEngine.tick 0).1.state.ledger.situations["s"]? = some situation ∧
        situation.severity = .major ∧
        (situation.alarms.overlaid (clearedEngine.tick 0).1.state.graph.instance?).severity =
          .cleared := by
  refine ⟨clearedEngine_reachable, clearedEngine_fresh, clearedEngine_ticked, ?_⟩
  have severities : ((clearedEngine.tick 0).1.state.ledger.situations["s"]?).map (fun situation =>
      (situation.severity,
        (situation.alarms.overlaid (clearedEngine.tick 0).1.state.graph.instance?).severity)) =
      some (.major, .cleared) := by decide +kernel
  obtain ⟨situation, found, both⟩ := Option.map_eq_some_iff.mp severities
  exact ⟨situation, found, Prod.mk.inj both⟩

theorem severity_follows_live_iff_distant :
    ∃ situation, (clearedEngine.tick 0).1.state.ledger.situations["s"]? = some situation ∧
      (situation.alarms.overlaid (clearedEngine.lagging? 0)).severity ≠
        situation.alarms.severity := by
  obtain ⟨summary, ticked, correlated⟩ := clearedEngine_ticked
  have outdated : ((clearedEngine.tick 0).1.state.ledger.situations["s"]?).map (fun situation =>
      decide (situation.severity =
        (situation.alarms.overlaid (clearedEngine.tick 0).1.state.graph.instance?).severity)) =
      some false := by decide +kernel
  obtain ⟨situation, found, different⟩ := Option.map_eq_some_iff.mp outdated
  refine ⟨situation, found, fun same => of_decide_eq_false different ?_⟩
  exact (clearedEngine_reachable.severity_follows_live_iff rfl rfl clearedEngine_fresh ticked
    correlated found).mpr same

end Engine
end FaultCorrelation
