import FaultCorrelation.Proofs.Engine.Alike

/-! # What garbage collection takes away

Letting go of alarms leaves edges, objects and the keys of vertices as they are (`Thinned`). What a
tick has collected is told by that and by the instances of alarms that are left (`Collected`): no
alarm is left whose time is over, and every other one stands where it stood. Since every vertex of
an engine carries something, the vertices that go are those that carried nothing but such alarms.
-/

namespace FaultCorrelation

open Std

variable {W : Type}

namespace Topology

variable {graph next last : Topology W}

/-- Whether a topology is what is left of another once alarms have been let go of. -/
structure Thinned (graph next : Topology W) : Prop where
  edges_eq : next.edges = graph.edges
  object_eq (id : VertexId) : next.objectAt? id = graph.objectAt? id
  named {id : VertexId} {key : ResourceKey} :
    next.keyAt? id = some key → graph.keyAt? id = some key
  within : next.HoldsWithin graph

theorem Thinned.trans (first : Thinned graph next) (second : Thinned next last) :
    Thinned graph last where
  edges_eq := second.edges_eq.trans first.edges_eq
  object_eq id := (second.object_eq id).trans (first.object_eq id)
  named named := first.named (second.named named)
  within := second.within.trans first.within

theorem thinned_releaseAlarm (graph : Topology W) (id : VertexId) (alarm : String) :
    Thinned graph (graph.releaseAlarm id alarm) where
  edges_eq := edges_prune (graph.eraseAlarm id alarm) id
  object_eq other := by
    rw [releaseAlarm, objectAt?_prune, objectAt?, eraseAlarm, WellFormed.getElem?_updateVertex]
    split
    · rw [Option.bind_map, objectAt?]
      congr 1
      funext vertex
      rw [Function.comp_apply, Vertex.eraseAlarm]
      split <;> rfl
    · rfl
  named := keyAt?_of_releaseAlarm
  within _ _ _ found := (alarmAt?_of_releaseAlarm found).2

end Topology

namespace EngineState

variable {parameters : Parameters W} {state begun : EngineState W} {now : Int}

theorem thinned_beginTick (parameters : Parameters W) (state : EngineState W) (now : Int) :
    Topology.Thinned state.graph (state.beginTick parameters now).1.graph := by
  rw [beginTick, collectGarbage]
  refine List.foldlRecOn _ _ (motive := fun (before : EngineState W × List Alarm) =>
    Topology.Thinned state.graph before.1.graph) ?_ ?_
  · exact ⟨rfl, fun _ => rfl, fun named => named, .refl state.graph⟩
  · rintro ⟨before, collected⟩ thinned located _
    dsimp only
    rw [collectAlarm]
    split
    · exact thinned
    · exact thinned.trans (Topology.thinned_releaseAlarm ..)

/-- What a state is like once the alarms that have expired are collected. -/
structure Collected (parameters : Parameters W) (now : Int) (state begun : EngineState W) :
    Prop where
  before : state.custody.Accounted
  after : begun.custody.Accounted
  thinned : state.graph.Thinned begun.graph
  instance_eq (name : String) : begun.graph.instance? name =
    (state.graph.instance? name).filter fun alarm => !parameters.isExpired now alarm

/-- The alarms that have expired, in order of their ids. -/
def expiredAlarms (parameters : Parameters W) (now : Int) (state : EngineState W) : List Alarm :=
  Sorting.sortBy byId
    ((state.graph.activeAlarms.map LocatedAlarm.alarm).filter (parameters.isExpired now))

theorem collected_beginTick (accounted : state.custody.Accounted) (parameters : Parameters W)
    (now : Int) : Collected parameters now state (state.beginTick parameters now).1 ∧
      (state.beginTick parameters now).2.1 =
        Sorting.sortBy byId (state.pendingCollected ++ state.expiredAlarms parameters now) ∧
      (state.expiredAlarms parameters now ≠ [] → (state.beginTick parameters now).1.dirty) := by
  have thinned := thinned_beginTick parameters state now
  have ready : Custody.Accounted (custody { state with
      clock := now, graph := { state.graph with clock := now } }) := accounted.clock now
  obtain ⟨next, collected, after, _, instances, rest⟩ := collectGarbage_spec ready parameters now
  have waiting : next.pendingCollected = state.pendingCollected := by rw [rest]
  change _ = (next, state.expiredAlarms parameters now) at collected
  rw [beginTick, collected] at thinned ⊢
  refine ⟨⟨accounted, after, thinned, instances⟩, ?_, fun some => ?_⟩
  · dsimp only
    rw [waiting]
  · simp [some]

namespace Collected

variable (collected : Collected parameters now state begun)
include collected

/-- What is held is what was held there and has not expired. -/
theorem alarmAt?_eq_some {id : VertexId} {name : String} {copy : Alarm} :
    begun.graph.alarmAt? id name = some copy ↔
      state.graph.alarmAt? id name = some copy ∧ parameters.isExpired now copy = false := by
  have filtered : begun.graph.instance? name = some copy ↔
      state.graph.instance? name = some copy ∧ parameters.isExpired now copy = false := by
    rw [collected.instance_eq, Option.filter_eq_some_iff, Bool.not_eq_true']
  have instance_iff {custody : Custody W} (accounted : custody.Accounted) :
      custody.1.instance? name = some copy ↔ ∃ id, custody.1.alarmAt? id name = some copy :=
    accounted.instance?_eq_some
  constructor
  · intro held
    exact ⟨collected.thinned.within id name copy held,
      (filtered.mp ((instance_iff collected.after).mpr ⟨id, held⟩)).2⟩
  · rintro ⟨held, lasts⟩
    obtain ⟨other, kept⟩ := (instance_iff collected.after).mp
      (filtered.mpr ⟨(instance_iff collected.before).mpr ⟨id, held⟩, lasts⟩)
    have there := collected.before.indexed.noted (collected.thinned.within other name copy kept)
    obtain rfl := Option.some.inj (there.symm.trans (collected.before.indexed.noted held))
    exact kept

theorem mem_activeAlarms {located : LocatedAlarm} : located ∈ begun.graph.activeAlarms ↔
    located ∈ state.graph.activeAlarms ∧ parameters.isExpired now located.alarm = false := by
  rw [← custody_fst begun, ← custody_fst state, collected.after.mem_activeAlarms,
    collected.before.mem_activeAlarms]
  exact collected.alarmAt?_eq_some

/-- No instance of an alarm that was held is left if it had expired. -/
theorem gone_iff {located : LocatedAlarm} (active : located ∈ state.graph.activeAlarms) :
    (∀ other ∈ begun.graph.activeAlarms, other.alarm.id ≠ located.alarm.id) ↔
      parameters.isExpired now located.alarm := by
  constructor
  · intro gone
    refine Bool.of_not_eq_false fun lasts => ?_
    exact gone located (collected.mem_activeAlarms.mpr ⟨active, lasts⟩) rfl
  · intro late other left same
    obtain ⟨there, lasts⟩ := collected.mem_activeAlarms.mp left
    rw [collected.before.indexed.alarm_eq there active same, late] at lasts
    contradiction

/-- A vertex that is left stands for the resource it stood for, with the same object. -/
theorem exists_vertex {id : VertexId} {vertex : Vertex W}
    (there : begun.graph.vertices[id]? = some vertex) :
    ∃ earlier, state.graph.vertices[id]? = some earlier ∧ vertex.key = earlier.key ∧
      vertex.inventory = earlier.inventory := by
  have named := collected.thinned.named (congrArg (Option.map Vertex.key) there)
  obtain ⟨earlier, before, called⟩ := Option.map_eq_some_iff.mp named
  have object := collected.thinned.object_eq id
  rw [Topology.objectAt?, Topology.objectAt?, there, before] at object
  exact ⟨earlier, before, called.symm, object⟩

/-- A vertex goes if all it carried were alarms that had expired. -/
theorem vertex_gone {id : VertexId} {vertex : Vertex W}
    (there : state.graph.vertices[id]? = some vertex) :
    id ∉ begun.graph.vertices ↔ vertex.alarms ≠ ∅ ∧
      (∀ (name : String) (copy : Alarm), vertex.alarms[name]? = some copy →
        parameters.isExpired now copy) ∧
      vertex.inventory = none ∧ ∀ other, VertexPair.of id other ∉ state.graph.edges := by
  have held {name : String} {copy : Alarm} : vertex.alarms[name]? = some copy ↔
      state.graph.alarmAt? id name = some copy := by
    rw [Topology.alarmAt?, there, Option.bind_some]
  have object : begun.graph.objectAt? id = vertex.inventory := by
    rw [collected.thinned.object_eq, Topology.objectAt?, there, Option.bind_some]
  constructor
  · intro gone
    have absent := ExtTreeMap.getElem?_eq_none gone
    have bare : vertex.inventory = none := by rw [← object, Topology.objectAt?, absent]; rfl
    have lonely (other : VertexId) : VertexPair.of id other ∉ state.graph.edges := fun joined =>
      gone (collected.after.wellFormed.of_mem_edges
        (show _ ∈ begun.graph.edges from collected.thinned.edges_eq ▸ joined)).2.1
    refine ⟨fun silent => ?_, fun name copy found => ?_, bare, lonely⟩
    · refine collected.before.inUse id (collected.before.wellFormed.isUnused_iff.mpr
        ⟨⟨vertex, there, ?_, bare⟩, lonely⟩)
      rw [silent]
      exact ExtTreeMap.isEmpty_empty
    · refine Bool.of_not_eq_false fun lasts => ?_
      have kept := collected.alarmAt?_eq_some.mpr ⟨held.mp found, lasts⟩
      rw [Topology.alarmAt?, absent] at kept
      contradiction
  · rintro ⟨_, late, bare, lonely⟩ present
    obtain ⟨last, left⟩ := Collections.exists_getElem? present
    refine collected.after.inUse id (collected.after.wellFormed.isUnused_iff.mpr
      ⟨⟨last, left, ?_, ?_⟩, fun other joined => lonely other ?_⟩)
    · rw [ExtTreeMap.isEmpty_iff, ExtTreeMap.eq_empty_iff_forall_not_mem]
      intro name member
      obtain ⟨copy, found⟩ := Collections.exists_getElem? member
      obtain ⟨before, lasts⟩ := collected.alarmAt?_eq_some.mp
        (Option.bind_eq_some_iff.mpr ⟨last, left, found⟩)
      rw [late name copy (held.mpr before)] at lasts
      contradiction
    · rwa [Topology.objectAt?, left, bare] at object
    · exact collected.thinned.edges_eq ▸ joined

end Collected

/-- Alarms of different ids that are sorted are in strict order. -/
theorem pairwise_byId {alarms : List Alarm} (distinct : (alarms.map Alarm.id).Nodup) :
    (Sorting.sortBy byId alarms).Pairwise fun first second => first.id < second.id := by
  have sorted : (Sorting.sortBy byId alarms).Pairwise fun first second =>
      (compareOn Alarm.id first second).isLE := by
    rw [byId_eq]
    exact Sorting.pairwise_sortBy_isLE alarms
  have apart : ((Sorting.sortBy byId alarms).map Alarm.id).Nodup :=
    ((Sorting.sortBy_perm byId alarms).map Alarm.id).nodup_iff.mpr distinct
  refine (sorted.and (List.pairwise_map.mp apart)).imp fun {first second} order => ?_
  obtain ⟨before, different⟩ := order
  rw [compareOn] at before
  cases comparison : compare first.id second.id with
  | lt => exact compareOfLessAndEq_eq_lt.mp comparison
  | eq => exact absurd (LawfulEqOrd.eq_of_compare comparison) different
  | gt =>
    rw [comparison] at before
    contradiction

theorem nodup_expired (accounted : state.custody.Accounted) (parameters : Parameters W)
    (now : Int) : (((state.graph.activeAlarms.map LocatedAlarm.alarm).filter
      (parameters.isExpired now)).map Alarm.id).Nodup := by
  have distinct : ((state.graph.activeAlarms.map LocatedAlarm.alarm).map Alarm.id).Nodup := by
    rw [List.map_map]
    exact accounted.indexed.nodup_ids
  exact distinct.sublist (List.filter_sublist.map Alarm.id)

variable [Weight W] {ids : IdSource}

/-- A tick that is not refused counts what it has collected or was handed back. -/
theorem garbageCollected_finishTick {summary : TickSummary} {collected : List Alarm}
    {outcome : TickSummary × List Situation}
    (finished : (state.finishTick parameters ids summary collected).1 = .ok outcome) :
    outcome.1.garbageCollected = summary.garbageCollected := by
  rw [finishTick] at finished
  split at finished
  · rw [← Except.ok.inj finished]
  · dsimp only at finished
    cases clustered : (cluster parameters { state with pendingFeedback := [] }).1 with
    | error cause =>
      rw [correlate_of_error _ _ _ _ clustered] at finished
      contradiction
    | ok clusters =>
      rw [correlate_of_ok _ _ _ _ clustered] at finished
      rw [← Except.ok.inj finished]

theorem garbageCollected_tick (admitted : state.checkTick now = .ok ()) {outcome : TickOutcome}
    (ticked : (state.tick parameters ids now).1 = .ok outcome) :
    outcome.summary.garbageCollected = (state.beginTick parameters now).2.1.length := by
  generalize begins : state.beginTick parameters now = result
  obtain ⟨begun, collected, expired⟩ := result
  generalize finishes : begun.finishTick parameters ids
    { time := now, garbageCollected := collected.length } collected = finished
  obtain ⟨answer, after, drawn⟩ := finished
  rw [tick_of_finished admitted begins finishes] at ticked
  cases answer with
  | error cause => contradiction
  | ok told =>
    rw [← Except.ok.inj ticked]
    exact garbageCollected_finishTick (congrArg Prod.fst finishes)

/-- Behind garbage collection a tick leaves the alarms where they are. -/
theorem custody_tick (parameters : Parameters W) (admitted : state.checkTick now = .ok ())
    (ids : IdSource) :
    (state.tick parameters ids now).2.1.custody = (state.beginTick parameters now).1.custody := by
  have cases := tick_cases parameters state ids now
  rw [admitted] at cases
  generalize (state.beginTick parameters now).1 = begun at cases
  generalize state.tick parameters ids now = ticked at cases
  rcases cases with
    ⟨_, refused, _⟩ | ⟨_, idle | ⟨summary, collected, feedback, correlated, origin, _, _, _, busy⟩⟩
  · contradiction
  · rw [idle]
  · obtain ⟨graph, vertices, _⟩ := correlate_frame parameters
      { begun with pendingFeedback := [] } ids summary collected feedback
    rw [origin] at graph vertices
    rw [busy]
    exact Prod.ext graph vertices

/-- The facts of a tick that is not refused. -/
theorem tickFacts?_of_begun {begun : EngineState W} {collected : List Alarm} {expired : Nat}
    (admitted : state.checkTick now = .ok ())
    (begins : state.beginTick parameters now = (begun, collected, expired)) :
    state.tickFacts? parameters now = if begun.isIdle then none else
      (begun.cluster parameters).1.toOption.map fun clusters =>
        begun.facts clusters collected begun.pendingFeedback := by
  rw [tickFacts?, admitted]
  simp only [begins]
  split
  · rfl
  · cases (begun.cluster parameters).1 <;> rfl

/-- A tick that is admitted keeps what has not expired, and shows the policy the rest. -/
theorem tick_collects (parameters : Parameters W) (sturdy : state.Sturdy)
    (accounted : state.custody.Accounted) (admitted : state.checkTick now = .ok ())
    (ids : IdSource) :
    ∃ outcome, (state.tick parameters ids now).1 = .ok outcome ∧
      outcome.summary.garbageCollected = (state.expiredAlarms parameters now).length ∧
      Collected parameters now state (state.tick parameters ids now).2.1 ∧
      (state.tick parameters ids now).2.1.pendingCollected = [] ∧
      (state.expiredAlarms parameters now ≠ [] → (state.tickFacts? parameters now).isSome) ∧
      ∀ facts, state.tickFacts? parameters now = some facts →
        facts.collected = Sorting.sortBy byId (state.expiredAlarms parameters now) := by
  obtain ⟨gathered, handed, dirty⟩ := collected_beginTick accounted parameters now
  rw [sturdy.settled, List.nil_append] at handed
  have same := custody_tick parameters admitted ids
  have begun := sturdy.beginTick parameters now
  have counts {outcome : TickOutcome} (ticked : (state.tick parameters ids now).1 = .ok outcome) :=
    garbageCollected_tick admitted ticked
  generalize begins : state.beginTick parameters now = result at *
  obtain ⟨begun', collected, expired⟩ := result
  dsimp only at gathered handed dirty same begun counts
  subst handed
  rw [tickFacts?_of_begun admitted begins]
  obtain ⟨clusters, clustered, _⟩ := begun.cluster parameters
  rcases sturdy.tick_cases parameters ids now with
    ⟨_, refused, _⟩ | ⟨_, outcome, after, drawn, ticked, _, _, settled⟩
  · rw [admitted] at refused
    contradiction
  rw [ticked] at same counts ⊢
  refine ⟨outcome, rfl, ?_, ?_, settled, fun late => ?_, fun facts found => ?_⟩
  · rw [counts rfl, Sorting.length_sortBy]
  · have graph : after.graph = begun'.graph := congrArg Prod.fst same
    exact ⟨accounted, same ▸ gathered.after, graph ▸ gathered.thinned,
      graph ▸ gathered.instance_eq⟩
  · have busy : begun'.isIdle = false := by
      rw [isIdle, dirty late]
      rfl
    rw [busy, clustered]
    rfl
  · split at found
    · contradiction
    · obtain ⟨_, _, rfl⟩ := Option.map_eq_some_iff.mp found
      rfl

end EngineState

namespace Engine

variable [Weight W]

/-- A tick takes away the alarms whose time is over, counts them and shows them to the policy once,
in order of their ids; all others stay where they are. The vertices that go are those that carried
nothing else. -/
theorem collection_exact (parameters : Parameters W) (tickResolution : Int)
    (instanceName : String) (ids : IdSource) (calls : List (Call W)) (now : Int) :
    let engine := (startWith parameters tickResolution instanceName ids).performAll calls
    let before := engine.state
    let after := (engine.tick now).1.state
    let lifetime := fun alarm : Alarm =>
      if alarm.isCleared then parameters.clearedLifetime else parameters.problemLifetime
    let isOver := fun alarm : Alarm => decide (min (alarm.time + lifetime alarm) latestTime ≤ now)
    let removed := (before.graph.activeAlarms.map LocatedAlarm.alarm).filter isOver
    before.phase = .initialized → before.clock ≤ now →
    (∃ summary, (engine.tick now).2 = .ok summary ∧
      summary.garbageCollected = removed.length) ∧
    (∀ located ∈ before.graph.activeAlarms,
      (∀ other ∈ after.graph.activeAlarms, other.alarm.id ≠ located.alarm.id) ↔
        isOver located.alarm) ∧
    (∀ located, located ∈ after.graph.activeAlarms ↔
      located ∈ before.graph.activeAlarms ∧ isOver located.alarm = false) ∧
    before.pendingCollected = [] ∧ after.pendingCollected = [] ∧
    (removed ≠ [] → (before.tickFacts? parameters now).isSome) ∧
    (∀ facts, before.tickFacts? parameters now = some facts →
      facts.collected.Perm removed ∧
      facts.collected.Pairwise (fun first second => first.id < second.id) ∧
      ∃ (graph : Topology W) (cache : DistanceCache W), after.ledger =
        ((before.ledger.commit (Policy.evaluate parameters.rules facts
          { draft := .new now, ids := engine.ids }).1.draft graph).run cache).1.1) ∧
    (∀ (id : VertexId) (vertex : Vertex W), before.graph.vertices[id]? = some vertex →
      (id ∉ after.graph.vertices ↔ vertex.alarms ≠ ∅ ∧
        (∀ (name : String) (copy : Alarm), vertex.alarms[name]? = some copy → isOver copy) ∧
        vertex.inventory = none ∧ ∀ other, VertexPair.of id other ∉ before.graph.edges)) ∧
    (∀ (id : VertexId) (vertex : Vertex W), after.graph.vertices[id]? = some vertex →
      ∃ earlier, before.graph.vertices[id]? = some earlier ∧ vertex.key = earlier.key ∧
        vertex.inventory = earlier.inventory) ∧
    after.graph.edges = before.graph.edges := by
  intro engine before after lifetime isOver removed phase clock
  have sturdy : before.Sturdy :=
    sturdy_performAll parameters tickResolution instanceName ids calls
  have accounted : before.custody.Accounted :=
    accounted_performAll parameters tickResolution instanceName ids calls
  have same : engine.parameters = parameters :=
    parameters_performAll parameters tickResolution instanceName ids calls
  obtain ⟨outcome, ticked, counted, collected, settled, looked, facts_eq⟩ :=
    EngineState.tick_collects parameters sturdy accounted
      (EngineState.checkTick_eq_ok.mpr ⟨phase, clock⟩) engine.ids
  have state_eq : after = (before.tick parameters engine.ids now).2.1 := by
    rw [← same]
    exact (tick_eq engine now).2.1
  have perm : (before.expiredAlarms parameters now).Perm removed := Sorting.sortBy_perm _ _
  rw [← state_eq] at collected settled
  refine ⟨⟨outcome.summary, ?_, counted.trans perm.length_eq⟩,
    fun located active => collected.gone_iff active, fun located => collected.mem_activeAlarms,
    sturdy.settled, settled, fun some => looked fun none => some ?_, fun facts found => ?_,
    fun id vertex there => collected.vertex_gone there, fun id vertex => collected.exists_vertex,
    collected.thinned.edges_eq⟩
  · rw [tick_answer, same, ticked]
    rfl
  · exact List.perm_nil.mp (none ▸ perm.symm)
  · have sorted := Sorting.sortBy_perm EngineState.byId (before.expiredAlarms parameters now)
    obtain ⟨graph, cache, committed⟩ := (EngineState.tick_of_some engine.ids found).committed
    rw [facts_eq facts found]
    refine ⟨sorted.trans perm, EngineState.pairwise_byId ?_, graph, cache, ?_⟩
    · exact (perm.map Alarm.id).nodup_iff.mpr (EngineState.nodup_expired accounted parameters now)
    · rw [state_eq, committed, EngineState.tickDraft, found]

/-- A run in which three alarms arrive, one of them later than the others. -/
def lapsingCalls : List (Call Nat) :=
  [.init { alarms := [nodeAlarm "a", { nodeAlarm "b" with time := 5 },
    { nodeAlarm "c" with resource := some ⟨["node", "n2"]⟩ }] }]

/-- Two hours later two of them go. -/
theorem collection_exact_lapsing :
    let engine := (startWith .whole 1000 "node" .counting).performAll lapsingCalls
    ∃ summary, (engine.tick 7200000).2 = .ok summary ∧ summary.garbageCollected = 2 := by
  obtain ⟨⟨summary, ticked, counted⟩, _⟩ := collection_exact .whole 1000 "node" .counting
    lapsingCalls 7200000 (by decide +kernel) (by decide +kernel)
  exact ⟨summary, ticked, counted.trans (by decide +kernel)⟩

end Engine
end FaultCorrelation
