import FaultCorrelation.Proofs.Engine.Custody
import FaultCorrelation.Proofs.Topology.Holding

/-! # One instance of each alarm

The state of an engine notes for each alarm which vertex holds it. Every alarm that a vertex holds
stands there under its own id and is noted, so that of any id the topology holds one alarm at most.
-/

namespace FaultCorrelation

open Std

variable {W : Type}

/-- The active alarm of an id. -/
def Topology.instance? (graph : Topology W) (id : String) : Option Alarm :=
  (graph.activeAlarms.find? fun located => located.alarm.id == id).map LocatedAlarm.alarm

namespace EngineState

/-- Whether every alarm that is held stands under its own id and is noted. -/
structure Indexed (graph : Topology W) (vertices : ExtTreeMap String VertexId) : Prop where
  noted {id : VertexId} {alarm : String} {copy : Alarm} :
    graph.alarmAt? id alarm = some copy → vertices[alarm]? = some id
  named {id : VertexId} {alarm : String} {copy : Alarm} :
    graph.alarmAt? id alarm = some copy → copy.id = alarm

namespace Indexed

variable {graph next : Topology W} {vertices : ExtTreeMap String VertexId}

theorem mono (indexed : Indexed graph vertices) (within : next.HoldsWithin graph) :
    Indexed next vertices where
  noted held := indexed.noted (within _ _ _ held)
  named held := indexed.named (within _ _ _ held)

/-- Of two active alarms of one id both are the same. -/
theorem alarm_eq (indexed : Indexed graph vertices) {first second : LocatedAlarm}
    (here : first ∈ graph.activeAlarms) (there : second ∈ graph.activeAlarms)
    (same : first.alarm.id = second.alarm.id) : first.alarm = second.alarm := by
  obtain ⟨id, alarm, held⟩ := Topology.exists_mem_activeAlarms.mp ⟨first, here, rfl⟩
  obtain ⟨other, name, kept⟩ := Topology.exists_mem_activeAlarms.mp ⟨second, there, rfl⟩
  obtain rfl : alarm = name := by rw [← indexed.named held, ← indexed.named kept, same]
  obtain rfl : id = other :=
    Option.some.inj ((indexed.noted held).symm.trans (indexed.noted kept))
  exact Option.some.inj (held.symm.trans kept)

theorem instance?_eq (indexed : Indexed graph vertices) {located : LocatedAlarm}
    (active : located ∈ graph.activeAlarms) :
    graph.instance? located.alarm.id = some located.alarm := by
  rw [Topology.instance?]
  cases found : graph.activeAlarms.find? fun other => other.alarm.id == located.alarm.id with
  | none => simpa using List.find?_eq_none.mp found located active
  | some other =>
    have named := List.find?_some found
    rw [beq_iff_eq] at named
    rw [Option.map_some, indexed.alarm_eq (List.mem_of_find?_eq_some found) active named]

/-- Holding an alarm, and letting go of an earlier instance of it elsewhere. -/
theorem put (indexed : Indexed graph vertices) {alarm : Alarm} {held : Topology W} {id : VertexId}
    {made : Bool} (placed : graph.putAlarm alarm = .ok (held, id, made))
    (moved : next = held ∧ (∀ previous ∈ vertices[alarm.id]?, previous = id) ∨
      ∃ previous ∈ vertices[alarm.id]?, previous ≠ id ∧
        next = held.releaseAlarm previous alarm.id) :
    Indexed next (vertices.insert alarm.id id) := by
  have found {other : VertexId} {name : String} {copy : Alarm}
      (found : next.alarmAt? other name = some copy) :
      held.alarmAt? other name = some copy ∧ (alarm.id = name → id = other) := by
    have before {other : VertexId} {name : String} {copy : Alarm}
        (found : held.alarmAt? other name = some copy) (same : alarm.id = name) :
        id = other ∨ vertices[alarm.id]? = some other := by
      rcases Topology.alarmAt?_of_putAlarm placed found with ⟨here, _⟩ | before
      · exact .inl here
      · exact .inr (same ▸ indexed.noted before)
    rcases moved with ⟨rfl, stays⟩ | ⟨previous, noted, different, rfl⟩
    · exact ⟨found, fun same => (before found same).elim (fun here => here)
        fun noted => (stays other noted).symm⟩
    · obtain ⟨gone, found⟩ := Topology.alarmAt?_of_releaseAlarm found
      refine ⟨found, fun same => (before found same).resolve_right fun was => gone ⟨?_, same⟩⟩
      exact Option.some.inj (noted.symm.trans was)
  refine ⟨fun {other name copy} there => ?_, fun {other name copy} there => ?_⟩
  · obtain ⟨there, settled⟩ := found there
    simp only [ExtTreeMap.getElem?_insert, LawfulEqOrd.compare_eq_iff_eq]
    split
    · rename_i same
      rw [settled same]
    · rename_i other_name
      rcases Topology.alarmAt?_of_putAlarm placed there with ⟨_, same, _⟩ | before
      · exact absurd same other_name
      · exact indexed.noted before
  · rcases Topology.alarmAt?_of_putAlarm placed (found there).1 with ⟨_, named, rfl⟩ | before
    · exact named
    · exact indexed.named before

/-- Letting go of an alarm where it is held. -/
theorem release (indexed : Indexed graph vertices) {id : VertexId} {alarm : String} {copy : Alarm}
    (held : graph.alarmAt? id alarm = some copy) :
    Indexed (graph.releaseAlarm id alarm) (vertices.erase alarm) := by
  refine ⟨fun found => ?_, fun found =>
    indexed.named (Topology.alarmAt?_of_releaseAlarm found).2⟩
  obtain ⟨gone, found⟩ := Topology.alarmAt?_of_releaseAlarm found
  simp only [ExtTreeMap.getElem?_erase, LawfulEqOrd.compare_eq_iff_eq]
  split
  · rename_i same
    refine absurd ⟨?_, same⟩ gone
    exact Option.some.inj ((indexed.noted held).symm.trans (same ▸ indexed.noted found))
  · exact indexed.noted found

variable [Weight W] {weights : EdgeWeights W} {before after : Custody W}

theorem move (indexed : Indexed before.1 before.2) (move : Custody.Move weights before after) :
    Indexed after.1 after.2 := by
  cases move with
  | clock now => exact indexed.mono (Topology.holdsWithin_of_vertices rfl)
  | addInventory objects => exact indexed.mono (Topology.holdsWithin_addInventory _ _)
  | removeInventory objects => exact indexed.mono (Topology.holdsWithin_removeInventory _ _)
  | put placed moved => exact indexed.put placed moved
  | release held => exact indexed.release held
  | drop => exact ⟨fun held => by simp [Topology.alarmAt?] at held,
      fun held => by simp [Topology.alarmAt?] at held⟩

theorem moves (indexed : Indexed before.1 before.2) (moves : Custody.Moves weights before after) :
    Indexed after.1 after.2 := by
  induction moves with
  | refl => exact indexed
  | tail _ move ih => exact ih.move move

end Indexed

/-- Whether a state has its alarms indexed. -/
def HasIndex (state : EngineState W) : Prop := Indexed state.graph state.alarmVertices

theorem HasIndex.fresh (parameters : Parameters W) : (EngineState.fresh parameters).HasIndex where
  noted held := by simp [EngineState.fresh, Topology.alarmAt?] at held
  named held := by simp [EngineState.fresh, Topology.alarmAt?] at held

theorem HasIndex.moves [Weight W] {state next : EngineState W} {weights : EdgeWeights W}
    (indexed : state.HasIndex) (moves : Custody.Moves weights state.custody next.custody) :
    next.HasIndex := by
  have before : Indexed state.custody.1 state.custody.2 := indexed
  exact before.moves moves

end EngineState

namespace Engine

/-- Every engine has its alarms indexed. -/
theorem Reachable.hasIndex [Weight W] {parameters : Parameters W} {engine : Engine W}
    (reached : Reachable parameters engine) : engine.state.HasIndex :=
  reached.invariant _ (.fresh parameters)
    (fun _ _ indexed step => indexed.moves (EngineState.moves_quiet step))
    fun engine _ indexed now _ => by
      rw [(tick_eq engine now).2.1]
      exact indexed.moves (EngineState.moves_tick parameters.weights _ _ engine.ids now)

end Engine
end FaultCorrelation
