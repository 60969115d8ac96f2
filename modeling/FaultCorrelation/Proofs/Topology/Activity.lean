import FaultCorrelation.Proofs.Topology.Step

/-! # What inventory leaves alone

Inventory neither brings active alarms nor takes them away: a vertex that is made holds none, and
one that is dropped held none. Its changes of edges are counted one by one, both by the generation
of the edges and by what is said of the batch.
-/

namespace FaultCorrelation

open Std

/-- How many changes of edges a batch came to. -/
def InventoryChange.edgeChanges (change : InventoryChange) : Nat :=
  change.edgesAdded + change.edgesRemoved + change.edgesHandedOver

namespace Topology

variable {W : Type} {graph next : Topology W}

/-- What the vertices hold that hold something. -/
def held (graph : Topology W) : ExtTreeMap VertexId (VertexId × AlarmMap) :=
  graph.vertices.filterMap fun _ vertex =>
    if vertex.isActive then some (vertex.id, vertex.alarms) else none

theorem getElem?_held (graph : Topology W) (id : VertexId) :
    graph.held[id]? = graph.vertices[id]?.bind fun vertex =>
      if vertex.isActive then some (vertex.id, vertex.alarms) else none :=
  ExtTreeMap.getElem?_filterMap'

/-- The active alarms are a matter of what the vertices hold. -/
theorem activeAlarms_eq (graph : Topology W) : graph.activeAlarms =
    graph.held.values.flatMap fun held => held.2.values.map (LocatedAlarm.mk held.1) := by
  rw [activeAlarms, workingSet, Collections.values_eq, Collections.values_eq, held,
    ExtTreeMap.toList_filterMap]
  induction graph.vertices.toList with
  | nil => rfl
  | cons first rest ih =>
    rw [List.map_cons, List.filter_cons, List.filterMap_cons]
    by_cases active : first.2.isActive
    · simp only [if_pos active, Option.map_some, List.flatMap_cons, List.map_cons, ih]
    · simp only [if_neg active, Option.map_none, ih]

theorem activeAlarms_congr (same : ∀ id : VertexId, next.held[id]? = graph.held[id]?) :
    next.activeAlarms = graph.activeAlarms := by
  rw [activeAlarms_eq, activeAlarms_eq, ExtTreeMap.ext_getElem? same]

theorem activeAlarms_of_vertices (same : next.vertices = graph.vertices) :
    next.activeAlarms = graph.activeAlarms := by
  rw [activeAlarms, workingSet, same]
  rfl

/-- A vertex that is made holds no alarm. -/
theorem activeAlarms_ensureVertex (wellFormed : graph.WellFormed) (key : ResourceKey) :
    (graph.ensureVertex key).1.activeAlarms = graph.activeAlarms := by
  rw [ensureVertex]
  split
  · rfl
  · refine activeAlarms_congr fun id => ?_
    rw [getElem?_held, getElem?_held, ExtTreeMap.getElem?_insert]
    split
    · rename_i same
      have free : graph.vertices[graph.nextId]? = none := by
        rw [← Option.not_isSome_iff_eq_none, ← ExtTreeMap.mem_iff_isSome_getElem?]
        exact fun member => Nat.lt_irrefl _ (wellFormed.id_lt member)
      rw [← LawfulEqOrd.eq_of_compare same, free]
      simp [Vertex.isActive, Vertex.new]
    · rfl

/-- Changes of a vertex that are not about its alarms. -/
theorem activeAlarms_updateVertex (graph : Topology W) (id : VertexId)
    {change : Vertex W → Vertex W}
    (kept : ∀ vertex, (change vertex).id = vertex.id ∧ (change vertex).alarms = vertex.alarms) :
    (graph.updateVertex id change).activeAlarms = graph.activeAlarms := by
  refine activeAlarms_congr fun other => ?_
  rw [getElem?_held, getElem?_held, WellFormed.getElem?_updateVertex]
  split
  · cases graph.vertices[other]? with
    | none => rfl
    | some vertex =>
      obtain ⟨named, shown⟩ := kept vertex
      rw [Option.map_some, Option.bind_some, Option.bind_some, Vertex.isActive, named, shown]
      rfl
  · rfl

/-- A vertex that is dropped held no alarm. -/
theorem activeAlarms_prune (graph : Topology W) (id : VertexId) :
    (graph.prune id).1.activeAlarms = graph.activeAlarms := by
  rw [prune]
  split
  · rename_i vertex there
    split
    · rename_i unused
      refine activeAlarms_congr fun other => ?_
      rw [getElem?_held, getElem?_held, ExtTreeMap.getElem?_erase]
      split
      · rename_i same
        obtain rfl := LawfulEqOrd.eq_of_compare same
        rw [isUnused, there] at unused
        simp_all
      · rfl
    · rfl
  · rfl

theorem activeAlarms_batch {before after : Topology W × InventoryChange}
    (wellFormed : before.1.WellFormed) (batch : Batch before after) :
    after.1.activeAlarms = before.1.activeAlarms := by
  induction batch with
  | refl => rfl
  | @tail between after batch step ih =>
    have kept := wellFormed.batch batch
    rw [← ih]
    cases step with
    | ensureVertex key => exact activeAlarms_ensureVertex kept key
    | annotate id same =>
      exact activeAlarms_updateVertex _ id fun vertex => ⟨(same vertex).1.1, (same vertex).2⟩
    | link edge here there => exact activeAlarms_of_vertices (vertices_link _ _ _ edge)
    | unlink joined =>
      refine activeAlarms_of_vertices ?_
      rw [unlink, if_pos joined]
    | handOver edge joined => exact activeAlarms_of_vertices rfl
    | prune id => exact activeAlarms_prune _ id
    | skip => rfl

/-- Every change of an edge is counted. -/
theorem generation_batch {before after : Topology W × InventoryChange}
    (batch : Batch before after) :
    after.1.generation + before.2.edgeChanges = before.1.generation + after.2.edgeChanges := by
  induction batch with
  | refl => rfl
  | @tail between after batch step ih =>
    have counted : after.1.generation + between.2.edgeChanges =
        between.1.generation + after.2.edgeChanges := by
      cases step with
      | ensureVertex key =>
        rw [ensureVertex]
        split <;> rfl
      | annotate id same => rfl
      | link edge here there =>
        rw [link]
        split
        · rfl
        · simp only [InventoryChange.edgeChanges, InventoryChange.countEdge, Bool.toNat_true]
          omega
      | unlink joined =>
        rw [unlink, if_pos joined]
        simp only [InventoryChange.edgeChanges]
        omega
      | handOver edge joined =>
        simp only [InventoryChange.edgeChanges, handOver]
        omega
      | prune id =>
        rcases WellFormed.prune_cases between.1 id with same | ⟨_, _, _, dropped⟩
        · rw [same]
          rfl
        · rw [dropped]
          rfl
      | skip => rfl
    omega

end Topology
end FaultCorrelation
