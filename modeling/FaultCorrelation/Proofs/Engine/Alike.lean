import FaultCorrelation.Proofs.Engine.Instances
import FaultCorrelation.Proofs.Engine.Remembering
import FaultCorrelation.Proofs.Policy.Placement
import FaultCorrelation.Proofs.Situation.Spread

/-! # States that number lone vertices differently

Two states are alike if they hold the same instances of alarms in topologies that match, and do not
differ in anything else but remembered distances. A tick tells no difference between them: where
weights are exact and no edge has a negative one, it answers the same, draws the same ids and leaves
states that are alike again.
-/

namespace FaultCorrelation

open Std
open Weight (IsExact)

variable {W : Type}

theorem EngineState.byId_eq : byId = fun a b => (compareOn Alarm.id a b).isLE := rfl

namespace Custody

variable {custody other : Custody W}

theorem Accounted.exists_vertexOfAlarm? (here : custody.Accounted) (there : other.Accounted)
    (same : ∀ name, other.1.instance? name = custody.1.instance? name) {alarm : Alarm}
    {id : VertexId} (found : custody.1.vertexOfAlarm? alarm = some id) :
    ∃ twin, other.1.vertexOfAlarm? alarm = some twin ∧
      Topology.Corresponds custody.1 other.1 id twin := by
  obtain ⟨copy, held, resource⟩ := here.vertexOfAlarm?_eq_some.mp found
  have again : other.1.instance? alarm.id = some copy :=
    (same alarm.id).trans (here.instance?_eq_some.mpr ⟨id, held⟩)
  obtain ⟨twin, kept⟩ := there.instance?_eq_some.mp again
  obtain ⟨key, named⟩ := Topology.exists_keyAt?_of_alarm held
  refine ⟨twin, there.vertexOfAlarm?_eq_some.mpr ⟨copy, kept, resource⟩, key, named, ?_⟩
  rw [← there.placed kept, here.placed held, named]

/-- Topologies that match and hold the same instances are alike. -/
theorem Accounted.alike (here : custody.Accounted) (there : other.Accounted)
    (matched : custody.1.Matches other.1)
    (same : ∀ name, other.1.instance? name = custody.1.instance? name) :
    Topology.Alike custody.1 other.1 where
  here := here.wellFormed
  there := there.wellFormed
  matched := matched
  located alarm := by
    cases found : custody.1.vertexOfAlarm? alarm with
    | some id =>
      obtain ⟨twin, again, corresponds⟩ := here.exists_vertexOfAlarm? there same found
      rw [again]
      exact .some corresponds
    | none =>
      cases again : other.1.vertexOfAlarm? alarm with
      | none => exact .none
      | some twin =>
        obtain ⟨id, absurd, _⟩ :=
          there.exists_vertexOfAlarm? here (fun name => (same name).symm) again
        rw [found] at absurd
        contradiction

section Instances

variable (here : custody.Accounted) (there : other.Accounted)
  (same : ∀ name, other.1.instance? name = custody.1.instance? name)
include here there same

theorem perm_activeAlarms : (custody.1.activeAlarms.map LocatedAlarm.alarm).Perm
    (other.1.activeAlarms.map LocatedAlarm.alarm) := by
  have distinct {custody : Custody W} (accounted : custody.Accounted) :
      (custody.1.activeAlarms.map LocatedAlarm.alarm).Nodup := by
    refine List.Nodup.of_map Alarm.id ?_
    rw [List.map_map]
    exact accounted.indexed.nodup_ids
  refine (List.perm_ext_iff_of_nodup (distinct here) (distinct there)).mpr fun alarm => ?_
  rw [here.mem_map_activeAlarms, there.mem_map_activeAlarms, same]

omit there same in
/-- Active alarms of one id are one alarm. -/
theorem eq_of_active {first second : Alarm}
    (one : first ∈ custody.1.activeAlarms.map LocatedAlarm.alarm)
    (two : second ∈ custody.1.activeAlarms.map LocatedAlarm.alarm)
    (named : first.id = second.id) : first = second := by
  rw [here.mem_map_activeAlarms] at one two
  exact Option.some.inj (one.symm.trans (named ▸ two))

/-- The alarms are clustered in the same order. -/
theorem sorted_activeAlarms :
    (Sorting.sortBy LocatedAlarm.earlier other.1.activeAlarms).map LocatedAlarm.alarm =
      (Sorting.sortBy LocatedAlarm.earlier custody.1.activeAlarms).map LocatedAlarm.alarm := by
  -- The vertex is compared last, and alarms of one time have different ids.
  have coarser (a b : LocatedAlarm) (before : (LocatedAlarm.order a b).isLE) :
      (compareLex (compareOn Alarm.time) (compareOn Alarm.id) a.alarm b.alarm).isLE := by
    simp only [LocatedAlarm.order, compareLex, compareOn] at before ⊢
    revert before
    cases compare a.alarm.time b.alarm.time <;> cases compare a.alarm.id b.alarm.id <;> simp
  rw [LocatedAlarm.earlier_eq]
  refine (Sorting.map_sortBy_eq coarser (perm_activeAlarms here there same) ?_).symm
  intro first one second two before after
  have equal := OrientedCmp.isLE_antisymm before after
  rw [compareLex_eq_eq] at equal
  exact eq_of_active here one two (LawfulEqOrd.eq_of_compare equal.2)

/-- Alarms that are looked at in order of their ids are looked at in the same order. -/
theorem sorted_filter_activeAlarms (keep : Alarm → Bool) :
    Sorting.sortBy EngineState.byId
        ((other.1.activeAlarms.map LocatedAlarm.alarm).filter keep) =
      Sorting.sortBy EngineState.byId
        ((custody.1.activeAlarms.map LocatedAlarm.alarm).filter keep) := by
  have permuted := (perm_activeAlarms here there same).filter keep
  rw [EngineState.byId_eq]
  refine (Sorting.sortBy_eq_of_perm permuted fun first one second two before after => ?_).symm
  have equal : compareOn Alarm.id first second = .eq := OrientedCmp.isLE_antisymm before after
  exact eq_of_active here (List.mem_filter.mp one).1 (List.mem_filter.mp two).1
    (LawfulEqOrd.eq_of_compare equal)

/-- The facts of a tick have the same active alarms. -/
theorem indexActive_eq :
    Facts.indexActive other.1.activeAlarms = Facts.indexActive custody.1.activeAlarms := by
  refine ExtTreeMap.ext_getElem? fun name => ?_
  rw [here.getElem?_indexActive, there.getElem?_indexActive, same]

theorem alarmCount_eq : other.1.alarmCount = custody.1.alarmCount := by
  rw [Topology.alarmCount_eq, Topology.alarmCount_eq, ← List.length_map LocatedAlarm.alarm,
    ← (perm_activeAlarms here there same).length_eq, List.length_map]

end Instances
end Custody

/-- A draft is committed with the same diagnostic texts where topologies are alike. -/
theorem Ledger.commit_alike [Weight W] [IsExact W] {graph next : Topology W}
    (alike : Topology.Alike graph next) (positive : graph.NonNegative) (ledger : Ledger)
    (draft : Draft) {cache other : DistanceCache W} (fits : cache.Fits graph)
    (again : other.Fits next) :
    ((ledger.commit draft next).run other).1 = ((ledger.commit draft graph).run cache).1 := by
  suffices finished : ∀ drafts : List SituationDraft,
      ((drafts.mapM (finish next)).run other).1 = ((drafts.mapM (finish graph)).run cache).1 by
    have committed {graph : Topology W} {cache : DistanceCache W} :
        ((ledger.commit draft graph).run cache).1 =
          let committed := ((draft.situations.values.mapM (finish graph)).run cache).1
          let prepared := ((ledger.applyAbsorptions draft).applyHomes draft).applyExclusions draft
          (((committed.foldl store prepared).applyReleases draft).dropVoidExclusions, committed) :=
      rfl
    rw [committed, committed, finished]
  intro drafts
  induction drafts generalizing cache other with
  | nil => rfl
  | cons first rest ih =>
    obtain ⟨text, told, same⟩ := Situation.concurs_diagnose alike positive first.situation
    obtain ⟨came, kept⟩ := told cache fits
    obtain ⟨agreed, stays⟩ := same other again
    have one {graph : Topology W} {cache : DistanceCache W}
        (came : ((first.situation.diagnose graph).run.run cache).1 = .ok text) :
        (((first :: rest).mapM (finish graph)).run cache).1 =
          { first.situation with diagnostic := some text } ::
            ((rest.mapM (finish graph)).run
              ((first.situation.diagnose graph).run.run cache).2).1 := by
      have finished : (finish graph first cache).1 =
          { first.situation with
            diagnostic := ((first.situation.diagnose graph).run.run cache).1.toOption } := rfl
      rw [finish_cons, finished, came]
      rfl
    rw [one came, one agreed, ih kept stays]

namespace EngineState

variable {state other : EngineState W}

/-- Whether two states differ in the numbers of lone vertices and in remembered distances at
most. -/
structure Alike (state other : EngineState W) : Prop where
  here : state.custody.Accounted
  there : other.custody.Accounted
  matched : state.graph.Matches other.graph
  instance_eq (name : String) : other.graph.instance? name = state.graph.instance? name
  rest : other = { state with
    graph := other.graph, alarmVertices := other.alarmVertices, distances := other.distances }

omit other in
theorem matches_beginTick (accounted : state.custody.Accounted) (parameters : Parameters W)
    (now : Int) : state.graph.Matches (state.beginTick parameters now).1.graph := by
  let moved : EngineState W :=
    { state with clock := now, graph := { state.graph with clock := now } }
  have clocked : moved.custody.Accounted := accounted.clock now
  obtain ⟨next, collected, _, matched, _⟩ := collectGarbage_spec clocked parameters now
  have begun : (state.beginTick parameters now).1.graph =
      (moved.collectGarbage parameters now).1.graph := rfl
  rw [begun, collected]
  exact (accounted.wellFormed.matches_clock now).trans matched

omit other in
/-- A tick leaves the edges as they are. -/
theorem edges_tick [Weight W] (accounted : state.custody.Accounted) (parameters : Parameters W)
    (ids : IdSource) (now : Int) :
    (state.tick parameters ids now).2.1.graph.edges = state.graph.edges := by
  rcases graph_tick parameters state ids now with same | same <;> rw [same]
  exact (matches_beginTick accounted parameters now).edges_eq

namespace Alike

variable (alike : Alike state other)
include alike

theorem topology : Topology.Alike state.graph other.graph :=
  alike.here.alike alike.there alike.matched alike.instance_eq

theorem ledger_eq : other.ledger = state.ledger := by rw [alike.rest]

omit alike in
/-- Setting the clock bears on no alarm. -/
theorem clock (alike : Alike state other) (now : Int) : Alike
    { state with clock := now, graph := { state.graph with clock := now } }
    { other with clock := now, graph := { other.graph with clock := now } } where
  here := alike.here.clock now
  there := alike.there.clock now
  matched := (alike.here.wellFormed.matches_clock now).symm.trans
    (alike.matched.trans (alike.there.wellFormed.matches_clock now))
  instance_eq := alike.instance_eq
  rest := congrArg (fun state : EngineState W =>
    { state with clock := now, graph := { other.graph with clock := now } }) alike.rest

theorem collectGarbage (parameters : Parameters W) (now : Int) :
    Alike (state.collectGarbage parameters now).1 (other.collectGarbage parameters now).1 ∧
      (other.collectGarbage parameters now).2 = (state.collectGarbage parameters now).2 := by
  obtain ⟨next, collected, here, matched, instances, rest⟩ :=
    collectGarbage_spec alike.here parameters now
  obtain ⟨last, again, there, follows, twins, remains⟩ :=
    collectGarbage_spec alike.there parameters now
  rw [collected, again]
  refine ⟨⟨here, there, matched.symm.trans (alike.matched.trans follows), fun name => ?_, ?_⟩, ?_⟩
  · rw [instances, twins, alike.instance_eq]
  · generalize next.graph = graph, next.alarmVertices = vertices at rest
    rw [rest, remains, alike.rest]
  · exact Custody.sorted_filter_activeAlarms alike.here alike.there alike.instance_eq _

theorem beginTick (parameters : Parameters W) (now : Int) :
    Alike (state.beginTick parameters now).1 (other.beginTick parameters now).1 ∧
      (other.beginTick parameters now).2 = (state.beginTick parameters now).2 := by
  obtain ⟨collected, same⟩ := (alike.clock now).collectGarbage parameters now
  have begun (state : EngineState W) : state.beginTick parameters now =
      let result := EngineState.collectGarbage parameters now
        { state with clock := now, graph := { state.graph with clock := now } }
      ({ result.1 with pendingCollected := [], dirty := result.1.dirty || !result.2.isEmpty },
        Sorting.sortBy byId (result.1.pendingCollected ++ result.2), result.2.length) := rfl
  rw [begun, begun]
  generalize EngineState.collectGarbage parameters now _ = result at collected same ⊢
  generalize EngineState.collectGarbage parameters now _ = twin at collected same ⊢
  have waiting : twin.1.pendingCollected = result.1.pendingCollected := by rw [collected.rest]
  dsimp only
  rw [same, waiting]
  refine ⟨⟨collected.here, collected.there, collected.matched, collected.instance_eq, ?_⟩, rfl⟩
  exact congrArg (fun state : EngineState W =>
    { state with pendingCollected := [], dirty := state.dirty || !result.2.isEmpty }) collected.rest

/-- What follows from clusters follows from groups of alarms. -/
theorem deliberate [Weight W] (parameters : Parameters W) (ids : IdSource)
    (now : Int) {clusters twins : List Cluster}
    (same : twins.map (List.map LocatedAlarm.alarm) = clusters.map (List.map LocatedAlarm.alarm))
    (collected : List Alarm) (feedback : List Feedback) :
    other.deliberate parameters ids now twins collected feedback =
      state.deliberate parameters ids now clusters collected feedback := by
  have facts : other.facts twins collected feedback =
      { state.facts clusters collected feedback with clusters := twins } := by
    have active := Custody.indexActive_eq alike.here alike.there alike.instance_eq
    rw [custody_fst, custody_fst] at active
    rw [EngineState.facts, EngineState.facts, active, alike.ledger_eq]
  rw [EngineState.deliberate, EngineState.deliberate, ← Policy.evaluate_unplaced, facts,
    Facts.unplaced_eq same, Policy.evaluate_unplaced]

variable [Weight W] [IsExact W] (remembers : state.Remembers) (again : other.Remembers)
  (positive : state.graph.NonNegative)
include remembers again positive

/-- Clustering comes to the same groups of alarms. -/
theorem cluster (parameters : Parameters W) : ∃ clusters twins distances others,
    state.cluster parameters = (.ok clusters, { state with distances }) ∧
    other.cluster parameters = (.ok twins, { other with distances := others }) ∧
    twins.map (List.map LocatedAlarm.alarm) = clusters.map (List.map LocatedAlarm.alarm) ∧
    distances.Fits state.graph ∧ others.Fits other.graph := by
  have located (first : LocatedAlarm) (here : first ∈ state.graph.activeAlarms)
      (second : LocatedAlarm) (there : second ∈ other.graph.activeAlarms)
      (same : first.alarm = second.alarm) :
      Topology.Corresponds state.graph other.graph first.vertex second.vertex := by
    have one := alike.here.vertexOfAlarm?_of_active here
    have two := alike.there.vertexOfAlarm?_of_active there
    have either := alike.topology.located first.alarm
    rw [custody_fst] at one two
    rw [one, same, two] at either
    cases either
    assumption
  obtain ⟨clusters, twins, told, agreed, same⟩ :=
    parameters.clusterer.reports_of_matches alike.here.wellFormed alike.there.wellFormed
      alike.matched positive
      (Custody.sorted_activeAlarms alike.here alike.there alike.instance_eq) located
  obtain ⟨came, kept⟩ := told _ remembers.fits
  obtain ⟨comes, stays⟩ := agreed _ again.fits
  refine ⟨clusters, twins, _, _, ?_, ?_, same, kept, stays⟩
  · exact Prod.ext came rfl
  · exact Prod.ext comes rfl

theorem correlate (parameters : Parameters W) (ids : IdSource) (summary : TickSummary)
    (collected : List Alarm) (feedback : List Feedback) :
    let result := state.correlate parameters ids summary collected feedback
    let twin := other.correlate parameters ids summary collected feedback
    twin.1 = result.1 ∧ twin.2.2 = result.2.2 ∧ Alike result.2.1 twin.2.1 := by
  obtain ⟨clusters, twins, distances, others, clustered, grouped, same, fits, follows⟩ :=
    alike.cluster remembers again positive parameters
  have length : twins.length = clusters.length := by
    rw [← List.length_map (List.map LocatedAlarm.alarm), same, List.length_map]
  have deliberated := alike.deliberate parameters ids summary.time same collected feedback
  have counted := Custody.alarmCount_eq alike.here alike.there alike.instance_eq
  have committed (draft : Draft) := Ledger.commit_alike alike.topology positive state.ledger draft
    fits follows
  rw [custody_fst, custody_fst] at counted
  rw [correlate_of_ok _ _ _ _ (congrArg Prod.fst clustered),
    correlate_of_ok _ _ _ _ (congrArg Prod.fst grouped), deliberated, clustered, grouped]
  generalize state.deliberate parameters ids summary.time clusters collected feedback = evaluated
  obtain ⟨bench, report⟩ := evaluated
  dsimp only
  rw [alike.ledger_eq, committed, counted, length]
  generalize ((state.ledger.commit bench.draft state.graph).run distances).1 = entered
  generalize ((state.ledger.commit bench.draft other.graph).run others).2 = others
  refine ⟨rfl, rfl, alike.here, alike.there, alike.matched, alike.instance_eq, ?_⟩
  exact congrArg (fun state : EngineState W =>
    { state with ledger := entered.1, distances := others }) alike.rest

theorem finishTick (parameters : Parameters W) (ids : IdSource) (summary : TickSummary)
    (collected : List Alarm) :
    let result := state.finishTick parameters ids summary collected
    let twin := other.finishTick parameters ids summary collected
    twin.1 = result.1 ∧ twin.2.2 = result.2.2 ∧ Alike result.2.1 twin.2.1 := by
  have idle : other.isIdle = state.isIdle := by rw [alike.rest, isIdle, isIdle]
  have feedback : other.pendingFeedback = state.pendingFeedback := by rw [alike.rest]
  rw [EngineState.finishTick, EngineState.finishTick, idle, feedback]
  by_cases rests : state.isIdle
  · rw [if_pos rests, if_pos rests]
    exact ⟨rfl, rfl, alike⟩
  rw [if_neg rests, if_neg rests]
  have waiting : Alike { state with pendingFeedback := [] } { other with pendingFeedback := [] } :=
    ⟨alike.here, alike.there, alike.matched, alike.instance_eq,
      congrArg (fun state : EngineState W => { state with pendingFeedback := [] }) alike.rest⟩
  have correlated := waiting.correlate ⟨remembers.wellFormed, remembers.fits⟩
    ⟨again.wellFormed, again.fits⟩ positive parameters ids summary collected state.pendingFeedback
  dsimp only at correlated ⊢
  generalize { state with pendingFeedback := [] }.correlate parameters ids summary collected
    state.pendingFeedback = result at correlated ⊢
  generalize { other with pendingFeedback := [] }.correlate parameters ids summary collected
    state.pendingFeedback = twin at correlated ⊢
  obtain ⟨answer, after, drawn⟩ := result
  obtain ⟨told, last, taken⟩ := twin
  obtain ⟨rfl, rfl, alike⟩ := correlated
  cases told with
  | error cause =>
    exact ⟨rfl, rfl, alike.here, alike.there, alike.matched, alike.instance_eq,
      congrArg (fun state : EngineState W => state.requeue collected _) alike.rest⟩
  | ok outcome =>
    exact ⟨rfl, rfl, alike.here, alike.there, alike.matched, alike.instance_eq,
      congrArg (fun state : EngineState W => { state with dirty := false }) alike.rest⟩

/-- A tick answers the same. -/
theorem tick (parameters : Parameters W) (ids : IdSource) (now : Int) :
    let result := state.tick parameters ids now
    let twin := other.tick parameters ids now
    twin.1 = result.1 ∧ twin.2.2 = result.2.2 ∧ Alike result.2.1 twin.2.1 := by
  have admitted : other.checkTick now = state.checkTick now := by
    rw [alike.rest, checkTick, checkTick]
  rw [EngineState.tick, EngineState.tick, admitted]
  cases state.checkTick now with
  | error cause => exact ⟨rfl, rfl, alike⟩
  | ok granted =>
    obtain ⟨begun, same⟩ := alike.beginTick parameters now
    have kept := remembers.beginTick parameters now
    have keeps := again.beginTick parameters now
    have stays := positive.congr (matches_beginTick alike.here parameters now).edges_eq
    generalize state.beginTick parameters now = result at begun same kept stays ⊢
    generalize other.beginTick parameters now = twin at begun same keeps ⊢
    obtain ⟨result, collected, expired⟩ := result
    obtain ⟨twin, _⟩ := twin
    obtain rfl := same
    have finished := begun.finishTick kept keeps stays parameters ids
      { time := now, garbageCollected := collected.length } collected
    dsimp only at finished ⊢
    generalize result.finishTick parameters ids _ collected = result at finished ⊢
    generalize twin.finishTick parameters ids _ collected = twin at finished ⊢
    obtain ⟨answer, after, drawn⟩ := result
    obtain ⟨told, last, taken⟩ := twin
    obtain ⟨rfl, rfl, alike⟩ := finished
    cases told with
    | error cause => exact ⟨rfl, rfl, alike⟩
    | ok outcome => exact ⟨rfl, rfl, alike⟩

end Alike
end EngineState
end FaultCorrelation
