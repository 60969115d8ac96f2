import FaultCorrelation.Proofs.Engine.Step
import FaultCorrelation.Proofs.Topology.Location
import FaultCorrelation.Proofs.Topology.Occupancy

/-! # Every alarm is accounted for

The note of where alarms are held and the topology agree exactly, whatever an engine has been
through: an alarm is noted at a vertex just in case that vertex holds it. Each alarm is held by the
vertex of its own resource, and no vertex is left over once nothing stands at it.
-/

namespace FaultCorrelation

open Std

variable {W : Type}

namespace Custody

/-- Whether a topology and the note of its alarms agree, and no vertex is left over. -/
structure Accounted (custody : Custody W) : Prop where
  wellFormed : custody.1.WellFormed
  indexed : EngineState.Indexed custody.1 custody.2
  held {alarm : String} {id : VertexId} :
    custody.2[alarm]? = some id → ∃ copy, custody.1.alarmAt? id alarm = some copy
  /-- An alarm stands at the vertex of its own resource. -/
  placed {id : VertexId} {alarm : String} {copy : Alarm} :
    custody.1.alarmAt? id alarm = some copy → copy.resource = custody.1.keyAt? id
  inUse : custody.1.InUse fun _ => False

namespace Accounted

theorem empty (weights : EdgeWeights W) : Accounted (({ weights }, ∅) : Custody W) where
  wellFormed := Topology.wellFormed_empty weights
  indexed := ⟨fun held => by simp [Topology.alarmAt?] at held,
    fun held => by simp [Topology.alarmAt?] at held⟩
  held noted := by simp at noted
  placed held := by simp [Topology.alarmAt?] at held
  inUse id unused := by simp [Topology.isUnused] at unused

variable {before after : Custody W} (accounted : before.Accounted)
include accounted

theorem noted_iff {alarm : String} {id : VertexId} :
    before.2[alarm]? = some id ↔ ∃ copy, before.1.alarmAt? id alarm = some copy :=
  ⟨accounted.held, fun ⟨_, held⟩ => accounted.indexed.noted held⟩

/-- Inventory moves no alarm. -/
theorem batch {change : InventoryChange} {later : Topology W × InventoryChange}
    (batch : Topology.Batch (before.1, change) later) (inUse : later.1.InUse fun _ => False) :
    Accounted (later.1, before.2) where
  wellFormed := accounted.wellFormed.batch batch
  indexed := accounted.indexed.mono fun id alarm _ there =>
    (Topology.alarmAt?_batch accounted.wellFormed batch id alarm).symm.trans there
  held {alarm id} noted := by
    rw [Topology.alarmAt?_batch accounted.wellFormed batch]
    exact accounted.held noted
  placed {id alarm copy} there := by
    rw [Topology.alarmAt?_batch accounted.wellFormed batch] at there
    rw [Topology.keyAt?_batch accounted.wellFormed batch there]
    exact accounted.placed there
  inUse := inUse

theorem release {id : VertexId} {alarm : String} {copy : Alarm}
    (there : before.1.alarmAt? id alarm = some copy) :
    Accounted (before.1.releaseAlarm id alarm, before.2.erase alarm) where
  wellFormed := accounted.wellFormed.steps (Topology.steps_releaseAlarm before.1 id alarm)
  indexed := accounted.indexed.release there
  held {name other} noted := by
    simp only [ExtTreeMap.getElem?_erase, LawfulEqOrd.compare_eq_iff_eq] at noted
    split at noted
    · contradiction
    · rename_i different
      rw [Topology.alarmAt?_releaseAlarm, if_neg fun both => different both.2]
      exact accounted.held noted
  placed {other name copy} found := by
    obtain ⟨key, named⟩ := Topology.exists_keyAt?_of_alarm found
    rw [Topology.alarmAt?_releaseAlarm] at found
    split at found
    · contradiction
    · rw [accounted.placed found, named, Topology.keyAt?_of_releaseAlarm named]
  inUse := accounted.inUse.releaseAlarm id alarm

/-- Where an alarm is held once it has been put and let go of elsewhere. -/
theorem alarmAt?_put {alarm : Alarm} {held graph : Topology W} {id : VertexId} {isNew : Bool}
    (placed : before.1.putAlarm alarm = .ok (held, id, isNew))
    (moved : graph = held ∧ (∀ previous ∈ before.2[alarm.id]?, previous = id) ∨
      ∃ previous ∈ before.2[alarm.id]?, previous ≠ id ∧ graph = held.releaseAlarm previous alarm.id)
    (other : VertexId) (name : String) : graph.alarmAt? other name =
      if alarm.id = name then if id = other then some alarm else none
      else before.1.alarmAt? other name := by
  have put := accounted.wellFormed.alarmAt?_putAlarm placed
  -- The alarm is nowhere but where it is noted.
  have nowhere {other : VertexId} (away : before.2[alarm.id]? ≠ some other) :
      before.1.alarmAt? other alarm.id = none :=
    Option.eq_none_iff_forall_ne_some.mpr fun copy found => away (accounted.indexed.noted found)
  by_cases same : alarm.id = name
  case neg =>
    rw [if_neg same]
    rcases moved with ⟨rfl, _⟩ | ⟨previous, _, _, rfl⟩
    · rw [put, if_neg fun both => same both.2]
    · rw [Topology.alarmAt?_releaseAlarm, if_neg fun both => same both.2, put,
        if_neg fun both => same both.2]
  subst same
  rw [if_pos rfl]
  rcases moved with ⟨rfl, stays⟩ | ⟨previous, noted, different, rfl⟩
  · rw [put]
    by_cases here : id = other
    · simp [here]
    · simp only [here, false_and, if_false]
      exact nowhere fun noted => here (stays other noted).symm
  · rw [Topology.alarmAt?_releaseAlarm, put]
    by_cases here : id = other
    · subst here
      simp [different]
    · by_cases was : previous = other
      · simp [was, here]
      · simp only [was, here, false_and, if_false]
        exact nowhere fun again => was (Option.some.inj (noted.symm.trans again))

theorem put {alarm : Alarm} {held graph : Topology W} {id : VertexId} {isNew : Bool}
    (placed : before.1.putAlarm alarm = .ok (held, id, isNew))
    (moved : graph = held ∧ (∀ previous ∈ before.2[alarm.id]?, previous = id) ∨
      ∃ previous ∈ before.2[alarm.id]?, previous ≠ id ∧
        graph = held.releaseAlarm previous alarm.id) :
    Accounted (graph, before.2.insert alarm.id id) := by
  have there := accounted.alarmAt?_put placed moved
  have steps := Topology.steps_putAlarm placed
  have extended := accounted.wellFormed.extends_putAlarm placed
  obtain ⟨key, resource, named⟩ := accounted.wellFormed.keyAt?_putAlarm placed
  have keys {other : VertexId} {name : ResourceKey} (called : graph.keyAt? other = some name) :
      held.keyAt? other = some name := by
    rcases moved with ⟨rfl, _⟩ | ⟨previous, _, _, rfl⟩
    · exact called
    · exact Topology.keyAt?_of_releaseAlarm called
  refine ⟨?_, accounted.indexed.put placed moved, fun {name other} noted => ?_,
    fun {other name copy} found => ?_, ?_⟩
  · rcases moved with ⟨rfl, _⟩ | ⟨previous, _, _, rfl⟩
    · exact accounted.wellFormed.steps steps
    · exact accounted.wellFormed.steps (steps.trans (Topology.steps_releaseAlarm _ _ _))
  · simp only [ExtTreeMap.getElem?_insert, LawfulEqOrd.compare_eq_iff_eq] at noted
    rw [there]
    split at noted
    · rename_i same
      rw [if_pos same, if_pos (Option.some.inj noted)]
      exact ⟨alarm, rfl⟩
    · rename_i different
      rw [if_neg different]
      exact accounted.held noted
  · obtain ⟨name, called⟩ := Topology.exists_keyAt?_of_alarm found
    rw [called]
    rw [there] at found
    split at found
    · split at found
      · rename_i here
        rw [← Option.some.inj found, resource, ← named, here, keys called]
      · contradiction
    · have before := accounted.placed found
      obtain ⟨old, known⟩ := Topology.exists_keyAt?_of_alarm found
      rw [before, known, ← extended.key known, keys called]
  · have put := accounted.inUse.putAlarm placed
    rcases moved with ⟨rfl, _⟩ | ⟨previous, _, _, rfl⟩
    · exact put
    · exact put.releaseAlarm previous alarm.id

theorem clock (now : Int) : Accounted ({ before.1 with clock := now }, before.2) :=
  ⟨accounted.wellFormed.clock now, accounted.indexed.mono (Topology.holdsWithin_of_vertices rfl),
    accounted.held, accounted.placed, accounted.inUse⟩

variable [Weight W] {weights : EdgeWeights W}

theorem move (move : Custody.Move weights before after) : after.Accounted := by
  cases move with
  | clock now => exact accounted.clock now
  | addInventory objects =>
    exact accounted.batch (Topology.batch_addInventory accounted.wellFormed objects)
      (accounted.inUse.addInventory accounted.wellFormed objects)
  | removeInventory objects =>
    exact accounted.batch (Topology.batch_removeInventory accounted.wellFormed objects)
      (accounted.inUse.removeInventory accounted.wellFormed objects)
  | put placed moved => exact accounted.put placed moved
  | release there => exact accounted.release there
  | drop => exact .empty weights

theorem moves (moves : Custody.Moves weights before after) : after.Accounted := by
  induction moves with
  | refl => exact accounted
  | tail _ move ih => exact ih.move move

end Accounted
end Custody

namespace Engine

variable [Weight W]

theorem accounted_performAll (parameters : Parameters W) (tickResolution : Int)
    (instanceName : String) (ids : IdSource) (calls : List (Call W)) :
    ((startWith parameters tickResolution instanceName ids).performAll
      calls).state.custody.Accounted :=
  (performAll_invariant (fun state => state.custody.Accounted) (.empty parameters.weights)
    (fun _ _ accounted step => accounted.moves (EngineState.moves_step step)) tickResolution
    instanceName ids calls).2

/-- Whatever an engine has been through, an alarm is noted at a vertex just in case the vertex holds
it; so no alarm is held twice, and each is held under its own id by the vertex of its own resource.
No vertex is left without an alarm, an object or an edge. -/
theorem alarms_accounted (parameters : Parameters W) (tickResolution : Int) (instanceName : String)
    (ids : IdSource) (calls : List (Call W)) :
    let state := ((startWith parameters tickResolution instanceName ids).performAll calls).state
    (∀ (alarm : String) (id : VertexId), state.alarmVertices[alarm]? = some id ↔
      ∃ vertex, state.graph.vertices[id]? = some vertex ∧ alarm ∈ vertex.alarms) ∧
    (∀ (alarm : String) (first second : Vertex W), first ∈ state.graph.vertices.values →
      second ∈ state.graph.vertices.values → alarm ∈ first.alarms → alarm ∈ second.alarms →
        first = second) ∧
    (∀ (id : VertexId) (vertex : Vertex W), state.graph.vertices[id]? = some vertex →
      ∀ (alarm : String) (copy : Alarm), vertex.alarms[alarm]? = some copy →
        copy.id = alarm ∧ copy.resource = some vertex.key) ∧
    ∀ (id : VertexId) (vertex : Vertex W), state.graph.vertices[id]? = some vertex →
      vertex.alarms ≠ ∅ ∨ vertex.inventory.isSome ∨
        ∃ other, VertexPair.of id other ∈ state.graph.edges := by
  intro state
  have accounted : state.custody.Accounted :=
    accounted_performAll parameters tickResolution instanceName ids calls
  clear_value state
  have wellFormed : state.graph.WellFormed := accounted.wellFormed
  have held {id : VertexId} {alarm : String} {copy : Alarm} {vertex : Vertex W}
      (there : state.graph.vertices[id]? = some vertex)
      (found : vertex.alarms[alarm]? = some copy) :
      state.custody.1.alarmAt? id alarm = some copy :=
    Option.bind_eq_some_iff.mpr ⟨vertex, there, found⟩
  have noted (alarm : String) (id : VertexId) : state.alarmVertices[alarm]? = some id ↔
      ∃ vertex, state.graph.vertices[id]? = some vertex ∧ alarm ∈ vertex.alarms := by
    refine accounted.noted_iff.trans ⟨?_, ?_⟩
    · rintro ⟨copy, found⟩
      obtain ⟨vertex, there, found⟩ := Option.bind_eq_some_iff.mp found
      exact ⟨vertex, there, Collections.mem_of_getElem? found⟩
    · rintro ⟨vertex, there, member⟩
      obtain ⟨copy, found⟩ := Collections.exists_getElem? member
      exact ⟨copy, held there found⟩
  refine ⟨noted, fun alarm first second here there shown again => ?_,
    fun id vertex there alarm copy found => ?_, fun id vertex there => ?_⟩
  · obtain ⟨id, here⟩ := Collections.mem_values.mp here
    obtain ⟨other, there⟩ := Collections.mem_values.mp there
    have one := (noted alarm id).mpr ⟨first, here, shown⟩
    rw [(noted alarm other).mpr ⟨second, there, again⟩] at one
    obtain rfl := Option.some.inj one
    exact Option.some.inj (here.symm.trans there)
  · have found := held there found
    refine ⟨accounted.indexed.named found, ?_⟩
    rw [accounted.placed found]
    exact congrArg (Option.map Vertex.key) there
  · by_contra unused
    rw [not_or, not_or, not_exists, ne_eq, Decidable.not_not, Option.not_isSome_iff_eq_none]
      at unused
    obtain ⟨silent, bare, lonely⟩ := unused
    refine accounted.inUse id (wellFormed.isUnused_iff.mpr ⟨⟨vertex, there, ?_, bare⟩, lonely⟩)
    rw [silent]
    exact ExtTreeMap.isEmpty_empty

end Engine
end FaultCorrelation
