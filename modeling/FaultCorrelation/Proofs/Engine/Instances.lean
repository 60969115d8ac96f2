import FaultCorrelation.Proofs.Engine.Accounting
import FaultCorrelation.Proofs.Engine.Reliability
import FaultCorrelation.Proofs.Topology.Renumbering

/-! # The instances of alarms

Where the topology and the note of alarms agree, what a topology holds is told by the instance of
each alarm that is held: every instance stands at the vertex of its own resource. Holding an alarm
and garbage collection are understood alarm by alarm.
-/

namespace FaultCorrelation

open Std

variable {W : Type}

/-- The active alarms are counted vertex by vertex. -/
theorem Topology.alarmCount_eq (graph : Topology W) :
    graph.alarmCount = graph.activeAlarms.length := by
  have length (alarms : AlarmMap) : alarms.values.length = alarms.size := by
    rw [Collections.values_eq, List.length_map, ExtTreeMap.length_toList]
  rw [alarmCount, activeAlarms, workingSet, List.length_flatMap, ← List.sum_eq_foldl_nat]
  induction graph.vertices.values with
  | nil => rfl
  | cons first rest ih =>
    rw [List.map_cons, List.sum_cons, List.filter_cons, ih]
    split
    · rw [List.map_cons, List.sum_cons, List.length_map, length]
    · rename_i silent
      have none : first.alarms = ∅ := by simpa [Vertex.isActive] using silent
      rw [none, ExtTreeMap.size_empty, Nat.zero_add]

namespace Custody.Accounted

variable {custody : Custody W} (accounted : custody.Accounted)
include accounted

theorem mem_activeAlarms {located : LocatedAlarm} : located ∈ custody.1.activeAlarms ↔
    custody.1.alarmAt? located.vertex located.alarm.id = some located.alarm := by
  have named {vertex : Vertex W} {id : VertexId} (there : custody.1.vertices[id]? = some vertex)
      {alarm : String} {copy : Alarm} (held : vertex.alarms[alarm]? = some copy) :
      copy.id = alarm :=
    accounted.indexed.named (Option.bind_eq_some_iff.mpr ⟨vertex, there, held⟩)
  simp only [Topology.activeAlarms, Topology.workingSet, List.mem_flatMap, List.mem_filter,
    List.mem_map, Collections.mem_values, Topology.alarmAt?, Option.bind_eq_some_iff]
  constructor
  · rintro ⟨vertex, ⟨⟨id, there⟩, _⟩, copy, ⟨alarm, held⟩, rfl⟩
    refine ⟨vertex, (accounted.wellFormed.id_eq there).symm ▸ there, ?_⟩
    rw [named there held]
    exact held
  · rintro ⟨vertex, there, held⟩
    refine ⟨vertex, ⟨⟨_, there⟩, ?_⟩, located.alarm, ⟨_, held⟩, ?_⟩
    · rw [Vertex.isActive, Bool.not_eq_true']
      exact ExtTreeMap.isEmpty_eq_false_iff.mpr fun empty => by simp [empty] at held
    · rw [accounted.wellFormed.id_eq there]

theorem instance?_eq_some {name : String} {copy : Alarm} :
    custody.1.instance? name = some copy ↔ ∃ id, custody.1.alarmAt? id name = some copy := by
  constructor
  · intro found
    rw [Topology.instance?, Option.map_eq_some_iff] at found
    obtain ⟨located, found, rfl⟩ := found
    have same := List.find?_some found
    rw [beq_iff_eq] at same
    exact ⟨located.vertex, same ▸ accounted.mem_activeAlarms.mp (List.mem_of_find?_eq_some found)⟩
  · rintro ⟨id, held⟩
    have named := accounted.indexed.named held
    have active : ⟨id, copy⟩ ∈ custody.1.activeAlarms :=
      accounted.mem_activeAlarms.mpr (named ▸ held)
    exact named ▸ accounted.indexed.instance?_eq active

theorem mem_map_activeAlarms {alarm : Alarm} :
    alarm ∈ custody.1.activeAlarms.map LocatedAlarm.alarm ↔
      custody.1.instance? alarm.id = some alarm := by
  rw [accounted.instance?_eq_some, List.mem_map]
  constructor
  · rintro ⟨located, active, rfl⟩
    exact ⟨located.vertex, accounted.mem_activeAlarms.mp active⟩
  · rintro ⟨id, held⟩
    exact ⟨⟨id, alarm⟩, accounted.mem_activeAlarms.mpr held, rfl⟩

/-- Of the active alarms that meet a condition, one has a given id if the instance of that id meets
it. -/
theorem mem_map_filter_activeAlarms {name : String} {copy : Alarm}
    (found : custody.1.instance? name = some copy) (keep : Alarm → Bool) :
    name ∈ (custody.1.activeAlarms.filter fun each => keep each.alarm).map
      (fun each => each.alarm.id) ↔ keep copy := by
  have named : copy.id = name := by
    obtain ⟨_, held⟩ := accounted.instance?_eq_some.mp found
    exact accounted.indexed.named held
  simp only [List.mem_map, List.mem_filter]
  constructor
  · rintro ⟨each, ⟨active, kept⟩, rfl⟩
    have again := accounted.indexed.instance?_eq active
    exact Option.some.inj (found.symm.trans again) ▸ kept
  · intro kept
    have shown := accounted.mem_map_activeAlarms.mpr (named.symm ▸ found)
    obtain ⟨each, active, rfl⟩ := List.mem_map.mp shown
    exact ⟨each, ⟨active, kept⟩, named⟩

/-- Indexed by id, the active alarms are the instances that are held. -/
theorem getElem?_indexActive (name : String) :
    (Facts.indexActive custody.1.activeAlarms)[name]? = custody.1.instance? name := by
  have indexed : Facts.indexActive custody.1.activeAlarms = ((SituationDraft.start "" 0).putAll
      (custody.1.activeAlarms.map LocatedAlarm.alarm)).alarms := by
    suffices put : ∀ (active : List LocatedAlarm) (drafted : SituationDraft),
        active.foldl (fun alarms located =>
          ExtTreeMap.insert alarms located.alarm.id located.alarm) drafted.alarms =
          (drafted.putAll (active.map LocatedAlarm.alarm)).alarms from put _ (.start "" 0)
    intro active
    induction active with
    | nil => exact fun _ => rfl
    | cons first rest ih => exact fun drafted => ih (drafted.put first.alarm)
  have distinct : ((custody.1.activeAlarms.map LocatedAlarm.alarm).map Alarm.id).Nodup := by
    rw [List.map_map]
    exact accounted.indexed.nodup_ids
  refine Option.ext fun copy => ?_
  rw [indexed]
  constructor
  · intro found
    rcases SituationDraft.mem_of_getElem?_putAll found with ⟨active, rfl⟩ | absent
    · exact accounted.mem_map_activeAlarms.mp active
    · simp [SituationDraft.start] at absent
  · intro found
    obtain ⟨_, held⟩ := accounted.instance?_eq_some.mp found
    obtain rfl := accounted.indexed.named held
    exact SituationDraft.getElem?_putAll_of_mem distinct
      (accounted.mem_map_activeAlarms.mpr found) _

/-- The vertex of an alarm's resource holds the alarm if it holds any instance of it. -/
theorem vertexOfAlarm?_eq_some {alarm : Alarm} {id : VertexId} :
    custody.1.vertexOfAlarm? alarm = some id ↔
      ∃ copy, custody.1.alarmAt? id alarm.id = some copy ∧ copy.resource = alarm.resource := by
  constructor
  · intro found
    simp only [Topology.vertexOfAlarm?, Option.bind_eq_bind, Option.bind_eq_some_iff] at found
    obtain ⟨key, resource, vertex, standing, found⟩ := found
    obtain ⟨there, called⟩ := accounted.wellFormed.vertexFor?_eq.mp standing
    split at found
    · rename_i member
      obtain rfl := Option.some.inj found
      obtain ⟨copy, shown⟩ := Collections.exists_getElem? member
      have held : custody.1.alarmAt? vertex.id alarm.id = some copy :=
        Option.bind_eq_some_iff.mpr ⟨vertex, there, shown⟩
      refine ⟨copy, held, ?_⟩
      rw [accounted.placed held, Topology.keyAt?, there, resource, Option.map_some, called]
    · contradiction
  · rintro ⟨copy, held, same⟩
    obtain ⟨vertex, there, shown⟩ := Option.bind_eq_some_iff.mp held
    have placed := accounted.placed held
    rw [same, Topology.keyAt?, there, Option.map_some] at placed
    obtain rfl := accounted.wellFormed.id_eq there
    have standing := accounted.wellFormed.vertexFor?_eq.mpr ⟨there, rfl⟩
    simp only [Topology.vertexOfAlarm?, placed, Option.bind_eq_bind, Option.bind_some, standing,
      if_pos (Collections.mem_of_getElem? shown)]

theorem vertexOfAlarm?_of_active {located : LocatedAlarm}
    (active : located ∈ custody.1.activeAlarms) :
    custody.1.vertexOfAlarm? located.alarm = some located.vertex :=
  accounted.vertexOfAlarm?_eq_some.mpr ⟨_, accounted.mem_activeAlarms.mp active, rfl⟩

/-- The alarms on a resource are the instances that name it. -/
theorem getElem?_alarmsOn {key : ResourceKey} {name : String} {copy : Alarm} :
    (((custody.1.vertexFor? key).map Vertex.alarms).getD ∅)[name]? = some copy ↔
      custody.1.instance? name = some copy ∧ copy.resource = some key := by
  rw [accounted.instance?_eq_some]
  constructor
  · intro found
    cases standing : custody.1.vertexFor? key with
    | none => simp [standing] at found
    | some vertex =>
      obtain ⟨there, called⟩ := accounted.wellFormed.vertexFor?_eq.mp standing
      rw [standing, Option.map_some, Option.getD_some] at found
      have held : custody.1.alarmAt? vertex.id name = some copy :=
        Option.bind_eq_some_iff.mpr ⟨vertex, there, found⟩
      refine ⟨⟨vertex.id, held⟩, ?_⟩
      rw [accounted.placed held, Topology.keyAt?, there, Option.map_some, called]
  · rintro ⟨⟨id, held⟩, resource⟩
    obtain ⟨vertex, there, shown⟩ := Option.bind_eq_some_iff.mp held
    have placed := accounted.placed held
    rw [resource, Topology.keyAt?, there, Option.map_some, Option.some_inj] at placed
    obtain rfl := accounted.wellFormed.id_eq there
    rw [accounted.wellFormed.vertexFor?_eq.mpr ⟨there, placed.symm⟩, Option.map_some,
      Option.getD_some]
    exact shown

theorem instance?_put {alarm : Alarm} {held graph : Topology W} {id : VertexId} {isNew : Bool}
    (placed : custody.1.putAlarm alarm = .ok (held, id, isNew))
    (moved : graph = held ∧ (∀ previous ∈ custody.2[alarm.id]?, previous = id) ∨
      ∃ previous ∈ custody.2[alarm.id]?, previous ≠ id ∧
        graph = held.releaseAlarm previous alarm.id) (name : String) :
    graph.instance? name =
      if alarm.id = name then some alarm else custody.1.instance? name := by
  have after (copy : Alarm) : graph.instance? name = some copy ↔
      ∃ id, graph.alarmAt? id name = some copy := (accounted.put placed moved).instance?_eq_some
  refine Option.ext fun copy => (after copy).trans ?_
  simp only [accounted.alarmAt?_put placed moved]
  by_cases same : alarm.id = name
  · simp [same]
  · simp only [same, if_false, accounted.instance?_eq_some]

theorem instance?_release {id : VertexId} {alarm : String} {copy : Alarm}
    (held : custody.1.alarmAt? id alarm = some copy) (name : String) :
    (custody.1.releaseAlarm id alarm).instance? name =
      if alarm = name then none else custody.1.instance? name := by
  have after (other : Alarm) : (custody.1.releaseAlarm id alarm).instance? name = some other ↔
      ∃ twin, (custody.1.releaseAlarm id alarm).alarmAt? twin name = some other :=
    (accounted.release held).instance?_eq_some
  refine Option.ext fun other => (after other).trans ?_
  simp only [Topology.alarmAt?_releaseAlarm]
  by_cases same : alarm = name
  · subst same
    have here (twin : VertexId) (again : custody.1.alarmAt? twin alarm = some other) : id = twin :=
      Option.some.inj ((accounted.indexed.noted held).symm.trans (accounted.indexed.noted again))
    simp only [and_true, if_true, reduceCtorEq, iff_false, not_exists]
    intro twin found
    split at found
    · contradiction
    · rename_i different
      exact different (here twin found)
  · simp only [same, and_false, if_false, accounted.instance?_eq_some]

end Custody.Accounted

/-- Whether an alarm can be held. -/
def Alarm.isFit (alarm : Alarm) : Bool :=
  alarm.resource.any (fun key => !key.isBlank) && !alarm.id.isEmpty

/-- The instance of an alarm once another alarm has arrived. -/
def Alarm.supersede (name : String) (found : Option Alarm) (alarm : Alarm) : Option Alarm :=
  if alarm.isFit ∧ alarm.id = name then some alarm else found

theorem Topology.putAlarm_eq_ok {graph : Topology W} {alarm : Alarm} :
    (∃ held, graph.putAlarm alarm = .ok held) ↔ alarm.isFit := by
  rw [putAlarm, Alarm.isFit]
  cases alarm.resource with
  | none => simp
  | some key =>
    cases blank : key.isBlank <;> cases unnamed : alarm.id.isEmpty <;> simp [blank]

namespace EngineState

variable {state between next : EngineState W} {first rest : List Alarm}

/-- What a state is like once alarms have arrived in order. -/
structure Took (alarms : List Alarm) (state next : EngineState W) : Prop where
  accounted : next.custody.Accounted
  matched : state.graph.Matches next.graph
  instance_eq (name : String) : next.graph.instance? name =
    alarms.foldl (Alarm.supersede name) (state.graph.instance? name)
  rest : next = { state with
    graph := next.graph, alarmVertices := next.alarmVertices
    dirty := state.dirty || alarms.any Alarm.isFit }

theorem Took.trans (one : Took first state between) (other : Took rest between next) :
    Took (first ++ rest) state next where
  accounted := other.accounted
  matched := one.matched.trans other.matched
  instance_eq name := by
    rw [other.instance_eq, one.instance_eq, List.foldl_append]
  rest := by
    have same := one.rest
    generalize between.graph = graph, between.alarmVertices = vertices at same
    rw [other.rest, same, List.any_append, Bool.or_assoc]

theorem took_tryAlarm (accounted : state.custody.Accounted) (alarm : Alarm) :
    Took [alarm] state (state.tryAlarm alarm).1 := by
  rcases state.tryAlarm_cases alarm with
    ⟨⟨cause, refused⟩, same⟩ | ⟨held, id, awoke, graph, placed, moved, same⟩ <;> rw [same]
  · have unfit : ¬ alarm.isFit := fun fit => by
      obtain ⟨held, placed⟩ := Topology.putAlarm_eq_ok.mpr fit
      rw [refused] at placed
      contradiction
    exact ⟨accounted, .refl _, fun name => by simp [Alarm.supersede, unfit], by simp [unfit]⟩
  · have fit : alarm.isFit := Topology.putAlarm_eq_ok.mp ⟨_, placed⟩
    refine ⟨accounted.put placed moved, ?_, fun name => ?_, by simp [fit]⟩
    · have put := accounted.wellFormed.matches_putAlarm placed
      rcases moved with ⟨rfl, _⟩ | ⟨previous, _, _, rfl⟩
      · exact put
      · have after := accounted.wellFormed.steps (Topology.steps_putAlarm placed)
        exact put.trans (after.matches_releaseAlarm previous alarm.id)
    · simp only [List.foldl_cons, List.foldl_nil, Alarm.supersede, fit, true_and]
      exact accounted.instance?_put placed moved name

theorem took_foldl (accounted : state.custody.Accounted) (alarms : List Alarm) :
    Took alarms state (alarms.foldl (fun state alarm => (state.tryAlarm alarm).1) state) := by
  induction alarms generalizing state with
  | nil => exact ⟨accounted, .refl _, fun _ => rfl, by simp⟩
  | cons first rest ih =>
    have one := took_tryAlarm accounted first
    exact one.trans (ih one.accounted)

/-- What a state is like once located alarms have been let go of. -/
structure Released (located : List LocatedAlarm) (state next : EngineState W) : Prop where
  accounted : next.custody.Accounted
  matched : state.graph.Matches next.graph
  instance_eq (name : String) : next.graph.instance? name =
    if name ∈ located.map (fun each => each.alarm.id) then none else state.graph.instance? name
  rest : next = { state with graph := next.graph, alarmVertices := next.alarmVertices }

/-- Collecting active alarms of different ids collects each of them. -/
theorem foldl_collectAlarm (accounted : state.custody.Accounted) {located : List LocatedAlarm}
    (active : ∀ each ∈ located, each ∈ state.graph.activeAlarms)
    (distinct : (located.map fun each => each.alarm.id).Nodup) (collected : List Alarm) :
    ∃ next, located.foldl (fun (state, collected) each => state.collectAlarm collected each)
        (state, collected) = (next, collected ++ located.map LocatedAlarm.alarm) ∧
      Released located state next := by
  induction located generalizing state collected with
  | nil => exact ⟨state, by simp, accounted, .refl _, fun _ => by simp, rfl⟩
  | cons first rest ih =>
    obtain ⟨fresh, distinct⟩ := List.nodup_cons.mp distinct
    have held : state.graph.alarmAt? first.vertex first.alarm.id = some first.alarm :=
      accounted.mem_activeAlarms.mp (active first (List.mem_cons_self ..))
    let between : EngineState W := { state with
      graph := state.graph.releaseAlarm first.vertex first.alarm.id
      alarmVertices := state.alarmVertices.erase first.alarm.id }
    have after : between.custody.Accounted := accounted.release held
    have step : state.collectAlarm collected first = (between, collected ++ [first.alarm]) := by
      rw [collectAlarm, held]
    have still (each : LocatedAlarm) (member : each ∈ rest) :
        each ∈ between.graph.activeAlarms := by
      refine after.mem_activeAlarms.mpr ((Topology.alarmAt?_releaseAlarm ..).trans ?_)
      rw [if_neg fun both => fresh (List.mem_map.mpr ⟨each, member, both.2.symm⟩)]
      exact accounted.mem_activeAlarms.mp (active each (List.mem_cons_of_mem _ member))
    obtain ⟨next, folded, released⟩ := ih after still distinct (collected ++ [first.alarm])
    refine ⟨next, ?_, released.accounted, ?_, fun name => ?_, released.rest⟩
    · rw [List.foldl_cons]
      dsimp only
      rw [step, folded, List.map_cons, List.append_assoc]
      rfl
    · exact (accounted.wellFormed.matches_releaseAlarm _ _).trans released.matched
    · have one : between.graph.instance? name = if first.alarm.id = name then none else _ :=
        accounted.instance?_release held name
      simp only [released.instance_eq, one, List.map_cons, List.mem_cons, eq_comm (a := name)]
      by_cases same : first.alarm.id = name
      · simp [same]
      · simp only [same, false_or, if_false]
        rfl

/-- Garbage collection lets go of the instances that have expired. -/
theorem collectGarbage_spec (accounted : state.custody.Accounted) (parameters : Parameters W)
    (now : Int) :
    ∃ next, state.collectGarbage parameters now = (next, Sorting.sortBy byId
        ((state.graph.activeAlarms.map LocatedAlarm.alarm).filter (parameters.isExpired now))) ∧
      next.custody.Accounted ∧ state.graph.Matches next.graph ∧
      (∀ name, next.graph.instance? name =
        (state.graph.instance? name).filter fun alarm => !parameters.isExpired now alarm) ∧
      next = { state with graph := next.graph, alarmVertices := next.alarmVertices } := by
  have distinct : ((state.graph.activeAlarms.filter fun each =>
      parameters.isExpired now each.alarm).map fun each => each.alarm.id).Nodup :=
    accounted.indexed.nodup_ids.sublist (List.filter_sublist.map _)
  obtain ⟨next, folded, released⟩ := foldl_collectAlarm accounted
    (fun each member => (List.mem_filter.mp member).1) distinct []
  refine ⟨next, ?_, released.accounted, released.matched, fun name => ?_, released.rest⟩
  · rw [collectGarbage, List.filter_map]
    dsimp only
    rw [folded]
    rfl
  · rw [released.instance_eq]
    cases found : state.graph.instance? name with
    | none => simp
    | some copy =>
      have gone := accounted.mem_map_filter_activeAlarms found (parameters.isExpired now)
      rw [custody_fst] at gone
      rw [Option.filter_some]
      by_cases late : parameters.isExpired now copy
      · rw [if_pos (gone.mpr late), late]
        rfl
      · rw [if_neg (mt gone.mp late), Bool.eq_false_iff.mpr late]
        rfl

end EngineState
end FaultCorrelation
