import FaultCorrelation.Proofs.Collections
import FaultCorrelation.Topology.Alarms
import FaultCorrelation.Topology.Inventory

/-! # Which vertices hold which alarms

Inventory does not bring alarms: after a change of the inventory a vertex holds no alarm that it did
not hold before. Holding an alarm brings that alarm only, and letting go of one takes it away.
-/

namespace FaultCorrelation.Topology

open Std

variable {W : Type} {graph next last : Topology W} {id : VertexId} {alarm : String} {copy : Alarm}

/-- Whether every alarm of a graph is held by the same vertex of another. -/
def HoldsWithin (next graph : Topology W) : Prop :=
  ∀ (id : VertexId) (alarm : String) (copy : Alarm),
    next.alarmAt? id alarm = some copy → graph.alarmAt? id alarm = some copy

theorem HoldsWithin.refl (graph : Topology W) : HoldsWithin graph graph := fun _ _ _ held => held

theorem HoldsWithin.trans (second : last.HoldsWithin next) (first : next.HoldsWithin graph) :
    last.HoldsWithin graph :=
  fun id alarm copy held => first id alarm copy (second id alarm copy held)

theorem alarmAt?_congr (vertices : next.vertices = graph.vertices) (id : VertexId)
    (alarm : String) : next.alarmAt? id alarm = graph.alarmAt? id alarm := by
  rw [alarmAt?, alarmAt?, vertices]

theorem holdsWithin_of_vertices (vertices : next.vertices = graph.vertices) :
    next.HoldsWithin graph :=
  fun id alarm _ held => (alarmAt?_congr vertices id alarm).symm.trans held

theorem alarmAt?_updateVertex (graph : Topology W) (id : VertexId) (change : Vertex W → Vertex W)
    (other : VertexId) (alarm : String) : (graph.updateVertex id change).alarmAt? other alarm =
      if id = other then graph.vertices[other]?.bind fun vertex => (change vertex).alarms[alarm]?
      else graph.alarmAt? other alarm := by
  rw [alarmAt?, updateVertex, ExtTreeMap.getElem?_modify]
  by_cases same : id = other
  · subst same
    simp only [compare_self, if_true, Option.bind_map]
    rfl
  · simp [alarmAt?, same]

/-- Changes of a vertex that are not about its alarms. -/
theorem holdsWithin_updateVertex (graph : Topology W) (id : VertexId)
    {change : Vertex W → Vertex W} (kept : ∀ vertex, (change vertex).alarms = vertex.alarms) :
    (graph.updateVertex id change).HoldsWithin graph := by
  intro other alarm copy held
  simp only [alarmAt?_updateVertex, kept] at held
  split at held <;> exact held

/-- A new vertex holds no alarm. -/
theorem holdsWithin_ensureVertex (graph : Topology W) (key : ResourceKey) :
    (graph.ensureVertex key).1.HoldsWithin graph := by
  rw [ensureVertex]
  split
  · exact .refl graph
  · intro id alarm copy held
    rw [alarmAt?, ExtTreeMap.getElem?_insert] at held
    split at held
    · simp [Vertex.new] at held
    · exact held

theorem holdsWithin_prune (graph : Topology W) (id : VertexId) :
    (graph.prune id).1.HoldsWithin graph := by
  rw [prune]
  split
  · split
    · intro other alarm copy held
      rw [alarmAt?, ExtTreeMap.getElem?_erase] at held
      split at held
      · contradiction
      · exact held
    · exact .refl graph
  · exact .refl graph

theorem holdsWithin_link (graph : Topology W) (a b : VertexId) (tie : Tie W) :
    (graph.link a b tie).1.HoldsWithin graph := by
  rw [link]
  split <;> exact .refl graph

theorem holdsWithin_unlink (graph : Topology W) (pair : VertexPair) :
    (graph.unlink pair).HoldsWithin graph := by
  rw [unlink]
  split <;> exact .refl graph

/-- A fold of steps that bring no alarms. -/
theorem holdsWithin_foldl {α : Type} {step : Topology W × InventoryChange → α →
      Topology W × InventoryChange}
    (within : ∀ before item, (step before item).1.HoldsWithin before.1) (items : List α)
    (before : Topology W × InventoryChange) : (items.foldl step before).1.HoldsWithin before.1 := by
  induction items generalizing before with
  | nil => exact .refl before.1
  | cons first rest ih => exact (ih _).trans (within before first)

theorem holdsWithin_withdrawEdge (id : VertexId) (key : ResourceKey) (graph : Topology W)
    (change : InventoryChange) (other : VertexId) :
    (withdrawEdge id key graph change other).1.HoldsWithin graph := by
  rw [withdrawEdge]
  dsimp only
  split
  · split
    · exact .refl graph
    · exact (holdsWithin_prune _ _).trans (holdsWithin_unlink graph _)
  · exact .refl graph

theorem holdsWithin_removeObject (graph : Topology W) (change : InventoryChange)
    (object : InventoryObject W) : (graph.removeObject change object).1.HoldsWithin graph := by
  rw [removeObject]
  dsimp only
  split
  · rename_i vertex _
    split
    · have detached (graph : Topology W) :
          (graph.updateVertex vertex.id fun vertex => vertex.detach graph.clock).HoldsWithin
            graph := holdsWithin_updateVertex graph _ fun vertex => by
        rw [Vertex.detach]
        split <;> rfl
      have withdrawn := holdsWithin_foldl
        (fun before other => holdsWithin_withdrawEdge vertex.id object.key before.1 before.2 other)
        (graph.adjacent vertex.id) (graph, change)
      exact (holdsWithin_prune _ _).trans ((detached _).trans withdrawn)
    · exact .refl graph
  · exact .refl graph

theorem holdsWithin_removeInventory (graph : Topology W) (objects : List (InventoryObject W)) :
    (graph.removeInventory objects).1.HoldsWithin graph :=
  holdsWithin_foldl (fun before object => holdsWithin_removeObject before.1 before.2 object) objects
    (graph, {})

section Adding

variable [Weight W]

theorem holdsWithin_linkAll (id : VertexId) (owner : ResourceKey) (graph : Topology W)
    (change : InventoryChange) (declarations : List (Declaration W)) :
    (linkAll id owner graph change declarations).1.HoldsWithin graph := by
  induction declarations generalizing graph change with
  | nil => exact .refl graph
  | cons first rest ih =>
    rw [linkAll]
    split
    · exact (ih _ _).trans ((holdsWithin_link _ _ _ _).trans (holdsWithin_ensureVertex graph _))
    · exact .refl graph

theorem holdsWithin_addObject (graph : Topology W) (change : InventoryChange)
    (object : InventoryObject W) : (graph.addObject change object).1.HoldsWithin graph := by
  have made := holdsWithin_ensureVertex graph object.key
  rw [addObject]
  split
  · dsimp only
    split
    · exact made
    · have attached (graph : Topology W) (id : VertexId) :
          (graph.updateVertex id fun vertex => vertex.attach object graph.clock).HoldsWithin
            graph := holdsWithin_updateVertex graph id fun _ => rfl
      exact (holdsWithin_linkAll _ _ _ _ _).trans ((attached _ _).trans made)
  · exact .refl graph

theorem holdsWithin_addInventory (graph : Topology W) (objects : List (InventoryObject W)) :
    (graph.addInventory objects).1.HoldsWithin graph :=
  holdsWithin_foldl (fun before object => holdsWithin_addObject before.1 before.2 object) objects
    (graph, {})

end Adding

/-- An alarm is held at the vertex of its resource, which is made if it is not there. -/
theorem putAlarm_spec {put : Alarm} {made : Bool}
    (held : graph.putAlarm put = .ok (next, id, made)) :
    ∃ key, put.resource = some key ∧ id = (graph.ensureVertex key).2.1 ∧
      next = (graph.ensureVertex key).1.updateVertex id fun vertex =>
        vertex.putAlarm put (graph.ensureVertex key).1.clock := by
  rw [putAlarm] at held
  split at held
  · contradiction
  rename_i key resource
  split at held
  · contradiction
  split at held
  · contradiction
  obtain ⟨rfl, rfl, _⟩ : _ ∧ _ ∧ _ := by simpa using held
  exact ⟨key, resource, rfl, rfl⟩

/-- The vertex of an alarm's resource comes to hold that alarm, and nothing else is brought. -/
theorem alarmAt?_of_putAlarm {put : Alarm} {made : Bool}
    (held : graph.putAlarm put = .ok (next, id, made)) {other : VertexId}
    (found : next.alarmAt? other alarm = some copy) :
    id = other ∧ put.id = alarm ∧ put = copy ∨ graph.alarmAt? other alarm = some copy := by
  obtain ⟨key, _, rfl, rfl⟩ := putAlarm_spec held
  rw [alarmAt?_updateVertex] at found
  have within := holdsWithin_ensureVertex graph key
  split at found
  · rename_i same
    cases there : (graph.ensureVertex key).1.vertices[other]? with
    | none => simp [there] at found
    | some vertex =>
      rw [there, Option.bind_some, Vertex.putAlarm, ExtTreeMap.getElem?_insert] at found
      split at found
      · rename_i named
        exact .inl ⟨same, LawfulEqOrd.eq_of_compare named, Option.some.inj found⟩
      · refine .inr (within other alarm copy ?_)
        rw [alarmAt?, there]
        exact found
  · exact .inr (within other alarm copy found)

/-- The alarm that is let go is not held any more, and nothing is brought. -/
theorem alarmAt?_of_releaseAlarm {released : String} {other : VertexId}
    (found : (graph.releaseAlarm id released).alarmAt? other alarm = some copy) :
    ¬ (id = other ∧ released = alarm) ∧ graph.alarmAt? other alarm = some copy := by
  have found := holdsWithin_prune _ _ other alarm copy found
  rw [eraseAlarm, alarmAt?_updateVertex] at found
  split at found
  · rename_i same
    subst same
    cases there : graph.vertices[id]? with
    | none => simp [there] at found
    | some vertex =>
      rw [there, Option.bind_some, Vertex.eraseAlarm] at found
      have before : released ≠ alarm ∧ vertex.alarms[alarm]? = some copy := by
        split at found
        · rw [ExtTreeMap.getElem?_erase] at found
          split at found
          · contradiction
          · rename_i different
            exact ⟨fun same => different (same ▸ compare_self), found⟩
        · rename_i absent
          exact ⟨fun same => absent (same ▸ Collections.mem_of_getElem? found), found⟩
      refine ⟨fun both => before.1 both.2, ?_⟩
      rw [alarmAt?, there]
      exact before.2
  · rename_i different
    exact ⟨fun both => different both.1, found⟩

/-- The active alarms are those that vertices hold. -/
theorem exists_mem_activeAlarms : (∃ located ∈ graph.activeAlarms, located.alarm = copy) ↔
    ∃ (id : VertexId) (alarm : String), graph.alarmAt? id alarm = some copy := by
  simp only [activeAlarms, workingSet, List.mem_flatMap, List.mem_filter, List.mem_map,
    Collections.mem_values, alarmAt?, Option.bind_eq_some_iff]
  constructor
  · rintro ⟨_, ⟨vertex, ⟨⟨id, there⟩, _⟩, _, ⟨alarm, held⟩, rfl⟩, rfl⟩
    exact ⟨id, alarm, vertex, there, held⟩
  · rintro ⟨id, alarm, vertex, there, held⟩
    refine ⟨⟨vertex.id, copy⟩, ⟨vertex, ⟨⟨id, there⟩, ?_⟩, copy, ⟨alarm, held⟩, rfl⟩, rfl⟩
    rw [Vertex.isActive, Bool.not_eq_true']
    refine ExtTreeMap.isEmpty_eq_false_iff.mpr fun empty => ?_
    rw [empty, ExtTreeMap.getElem?_empty] at held
    contradiction

end FaultCorrelation.Topology
