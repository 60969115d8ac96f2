import FaultCorrelation.Proofs.Distance.Transparency
import FaultCorrelation.Proofs.Topology.Activity
import FaultCorrelation.Proofs.Topology.Usable

/-! # The tally of a batch

A batch of inventory counts what it does to vertices and edges while it does it. Each elementary
change is counted where it is made, so that what a batch counts makes up for what became of the
tables and of the generation of the edges. A batch that leaves the edges as they were has changed
none of them on the way either: additions only make edges, and a removal leaves no edge that was
declared by an object it removes, so that such a batch had no edge to withdraw.
-/

namespace FaultCorrelation.Topology

open Std

variable {W : Type} {graph next : Topology W}

/-- Whether what is counted between two states of a batch makes up for how the tables have grown. -/
structure Tallies (before after : Topology W × InventoryChange) : Prop where
  vertices_size : after.1.vertices.size + after.2.verticesRemoved + before.2.verticesAdded =
    before.1.vertices.size + before.2.verticesRemoved + after.2.verticesAdded
  edges_size : after.1.edges.size + after.2.edgesRemoved + before.2.edgesAdded =
    before.1.edges.size + before.2.edgesRemoved + after.2.edgesAdded

namespace Tallies

variable {before between after : Topology W × InventoryChange}

theorem refl (before : Topology W × InventoryChange) : Tallies before before := ⟨rfl, rfl⟩

theorem trans (first : Tallies before between) (second : Tallies between after) :
    Tallies before after := by
  obtain ⟨vertices, edges⟩ := first
  obtain ⟨vertices', edges'⟩ := second
  constructor <;> omega

/-- Each elementary change is counted. -/
theorem of_step (wellFormed : before.1.WellFormed) (step : BatchStep before after) :
    Tallies before after := by
  cases step with
  | ensureVertex key =>
    rw [ensureVertex]
    split
    · exact refl before
    · have grown : (before.1.vertices.insert before.1.nextId
          (.new before.1.nextId key before.1.clock)).size = before.1.vertices.size + 1 :=
        ExtTreeMap.size_insert.trans (if_neg fun member =>
          Nat.lt_irrefl _ (wellFormed.id_lt (ExtTreeMap.mem_iff_contains.mpr member)))
      refine ⟨?_, rfl⟩
      simp only [InventoryChange.countVertex, Bool.toNat_true, grown]
      omega
  | annotate id kept => exact ⟨by simp only [updateVertex, ExtTreeMap.size_modify], rfl⟩
  | @link a b tie here there =>
    rw [link]
    split
    · exact refl before
    · rename_i apart
      have grown : (before.1.edges.insert (.of a b) ⟨tie, .of a b⟩).size =
          before.1.edges.size + 1 :=
        ExtTreeMap.size_insert.trans (if_neg (not_or.mp apart).2)
      refine ⟨rfl, ?_⟩
      simp only [InventoryChange.countEdge, Bool.toNat_true, grown]
      omega
  | @unlink pair joined =>
    have shrunk := Collections.size_erase_of_mem joined
    rw [unlink, if_pos joined]
    refine ⟨rfl, ?_⟩
    simp only
    omega
  | @handOver pair tie joined => exact ⟨rfl, by simp only [handOver, ExtTreeMap.size_modify]⟩
  | prune id =>
    rcases WellFormed.prune_cases before.1 id with same | ⟨vertex, found, _, dropped⟩
    · rw [same]
      exact refl before
    · have shrunk := Collections.size_erase_of_mem (Collections.mem_of_getElem? found)
      rw [dropped]
      refine ⟨?_, rfl⟩
      simp only [InventoryChange.countPruned, Bool.toNat_true]
      omega
  | skip => exact ⟨rfl, rfl⟩

theorem of_batch (wellFormed : before.1.WellFormed) (batch : Batch before after) :
    Tallies before after := by
  induction batch with
  | refl => exact refl before
  | tail batch step ih => exact ih.trans (of_step (wellFormed.batch batch) step)

end Tallies

section Adding

variable [Weight W]

/-- Linking takes no edge away and hands none over. -/
theorem edgesTaken_linkAll (id : VertexId) (owner : ResourceKey) (graph : Topology W)
    (change : InventoryChange) (declarations : List (Declaration W)) :
    (linkAll id owner graph change declarations).2.edgesRemoved = change.edgesRemoved ∧
      (linkAll id owner graph change declarations).2.edgesHandedOver = change.edgesHandedOver := by
  induction declarations generalizing graph change with
  | nil => exact ⟨rfl, rfl⟩
  | cons first rest ih =>
    rw [linkAll]
    split
    · exact ih _ _
    · exact ⟨rfl, rfl⟩

theorem edgesTaken_addObject (graph : Topology W) (change : InventoryChange)
    (object : InventoryObject W) :
    (graph.addObject change object).2.edgesRemoved = change.edgesRemoved ∧
      (graph.addObject change object).2.edgesHandedOver = change.edgesHandedOver := by
  rw [addObject]
  split
  · dsimp only
    split
    · exact ⟨rfl, rfl⟩
    · exact edgesTaken_linkAll ..
  · exact ⟨rfl, rfl⟩

theorem edgesTaken_addInventory (graph : Topology W) (objects : List (InventoryObject W)) :
    (graph.addInventory objects).2.edgesRemoved = 0 ∧
      (graph.addInventory objects).2.edgesHandedOver = 0 := by
  rw [addInventory]
  refine List.foldlRecOn objects _ (motive := fun (after : Topology W × InventoryChange) =>
    after.2.edgesRemoved = 0 ∧ after.2.edgesHandedOver = 0) ⟨rfl, rfl⟩ ?_
  rintro ⟨before, change⟩ ⟨removed, handedOver⟩ object -
  obtain ⟨same, also⟩ := edgesTaken_addObject before change object
  exact ⟨same.trans removed, also.trans handedOver⟩

/-- Additions that leave the edges as they were have made none. -/
theorem WellFormed.edgeChanges_addInventory (wellFormed : graph.WellFormed)
    (objects : List (InventoryObject W))
    (same : (graph.addInventory objects).1.edges = graph.edges) :
    (graph.addInventory objects).2.edgeChanges = 0 := by
  obtain ⟨removed, handedOver⟩ := edgesTaken_addInventory graph objects
  have size : (graph.addInventory objects).1.edges.size +
      (graph.addInventory objects).2.edgesRemoved =
        graph.edges.size + (graph.addInventory objects).2.edgesAdded :=
    (Tallies.of_batch wellFormed (batch_addInventory wellFormed objects)).edges_size
  rw [same] at size
  rw [InventoryChange.edgeChanges]
  omega

end Adding

/-- Whether an edge was declared by a resource. -/
def Owns (graph : Topology W) (key : ResourceKey) : Prop :=
  ∃ (pair : VertexPair) (edge : Edge W), graph.edges[pair]? = some edge ∧ edge.declaredBy = key

theorem Left.remains {gone : ResourceKey → Prop} {pair : VertexPair} {tie : Tie W}
    (left : Left graph gone pair tie) : ¬gone tie.declaredBy := by
  cases left with
  | stays _ remains => exact remains
  | passes _ _ _ _ remains => exact remains

/-- An object that declared no edge has none to withdraw. -/
theorem withdrawEdge_of_not_owns {key : ResourceKey} (free : ¬graph.Owns key)
    (change : InventoryChange) (id other : VertexId) :
    withdrawEdge id key graph change other = (graph, change) := by
  rw [withdrawEdge]
  refine if_neg fun own => free ?_
  obtain ⟨edge, found, declared⟩ := (Option.any_eq_true ..).mp own
  exact ⟨_, edge, found, beq_iff_eq.mp declared⟩

theorem removeObject_of_not_owns {object : InventoryObject W} (free : ¬graph.Owns object.key)
    (change : InventoryChange) : (graph.removeObject change object).1.edges = graph.edges ∧
      (graph.removeObject change object).2.edgeChanges = change.edgeChanges := by
  rw [removeObject]
  dsimp only
  split
  · rename_i vertex _
    split
    · have idle : (graph.adjacent vertex.id).foldl (fun (before : Topology W × InventoryChange)
          other => withdrawEdge vertex.id object.key before.1 before.2 other) (graph, change) =
            (graph, change) :=
        List.foldl_fixed' (withdrawEdge_of_not_owns free change vertex.id) _
      rw [idle]
      exact ⟨edges_prune _ _, rfl⟩
    · exact ⟨rfl, rfl⟩
  · exact ⟨rfl, rfl⟩

theorem edgeChanges_removeInventory {objects : List (InventoryObject W)}
    (free : ∀ object ∈ objects, ¬graph.Owns object.key) :
    (graph.removeInventory objects).2.edgeChanges = 0 := by
  have idle : (graph.removeInventory objects).1.edges = graph.edges ∧
      (graph.removeInventory objects).2.edgeChanges = 0 := by
    rw [removeInventory]
    refine List.foldlRecOn objects _ (motive := fun (after : Topology W × InventoryChange) =>
      after.1.edges = graph.edges ∧ after.2.edgeChanges = 0) ⟨rfl, rfl⟩ ?_
    rintro ⟨before, change⟩ ⟨edges, none⟩ object member
    have free : ¬before.Owns object.key := by
      rw [Owns, edges]
      exact free object member
    obtain ⟨same, also⟩ := removeObject_of_not_owns free change
    exact ⟨same.trans edges, also.trans none⟩
  exact idle.2

/-- Removals that leave the edges as they were have withdrawn none. -/
theorem Declared.edgeChanges_removeInventory {exempt : VertexId → Prop}
    (declared : graph.Declared exempt) (wellFormed : graph.WellFormed)
    (objects : List (InventoryObject W))
    (same : (graph.removeInventory objects).1.edges = graph.edges) :
    (graph.removeInventory objects).2.edgeChanges = 0 := by
  apply Topology.edgeChanges_removeInventory
  rintro object member ⟨pair, edge, found, declarer⟩
  -- The edge is still there as it was, which no edge that the object declared would be.
  rw [← same] at found
  have left := ((declared.removeInventory wellFormed objects).2 pair edge.toTie).mp
    (tieAt?_eq_some.mpr ⟨edge, found, rfl⟩)
  exact left.remains (declarer ▸ List.mem_map_of_mem member)

/-- Whether what a batch counts accounts for all that it did to a topology. -/
structure Accounted (graph : Topology W) (after : Topology W × InventoryChange) : Prop where
  vertices_size : after.1.vertices.size + after.2.verticesRemoved =
    graph.vertices.size + after.2.verticesAdded
  edges_size : after.1.edges.size + after.2.edgesRemoved = graph.edges.size + after.2.edgesAdded
  generation_eq : after.1.generation = graph.generation +
    (after.2.edgesAdded + after.2.edgesRemoved + after.2.edgesHandedOver)
  edges_eq_iff : after.1.edges = graph.edges ↔ after.1.generation = graph.generation
  generation_eq_iff : after.1.generation = graph.generation ↔ after.2.changedEdges = false

theorem WellFormed.accounted {after : Topology W × InventoryChange} (wellFormed : graph.WellFormed)
    (batch : Batch (graph, {}) after)
    (counted : after.1.edges = graph.edges → after.2.edgeChanges = 0) :
    Accounted graph after := by
  have tallies := Tallies.of_batch wellFormed batch
  have generation : after.1.generation = graph.generation + after.2.edgeChanges :=
    generation_batch batch
  refine ⟨tallies.vertices_size, tallies.edges_size, generation, ?_, ?_⟩
  · refine ⟨fun same => ?_, (follows_steps (steps_of_batch batch)).edges_eq⟩
    rw [generation, counted same]
    rfl
  · simp only [generation, InventoryChange.changedEdges, InventoryChange.edgeChanges,
      decide_eq_false_iff_not]
    omega

/-- Whatever objects a topology was built from, what a batch of inventory counts accounts for what
the batch did to vertices and edges, and an edge has changed just in case the generation of the
edges has, and just in case the batch says so. -/
theorem inventory_accounted [Weight W] (weights : EdgeWeights W) (operations : List (Operation W))
    (objects : List (InventoryObject W)) :
    let graph := (empty weights).operateAll operations
    Accounted graph (graph.addInventory objects) ∧
      Accounted graph (graph.removeInventory objects) := by
  intro graph
  have wellFormed : graph.WellFormed := (wellFormed_empty weights).operateAll operations
  have declared := declarer_operateAll weights operations
  exact ⟨wellFormed.accounted (batch_addInventory wellFormed objects)
      (wellFormed.edgeChanges_addInventory objects),
    wellFormed.accounted (batch_removeInventory wellFormed objects)
      (declared.edgeChanges_removeInventory wellFormed objects)⟩

/-- Of two hosts that declare each other the second takes the edge over, only to lose it when it is
removed from the same batch. -/
example :
    let graph := ((empty ⟨1, 2, 4⟩).addInventory pairedHosts).1
    (graph.removeInventory pairedHosts).2 =
      { verticesRemoved := 3, edgesRemoved := 2, edgesHandedOver := 1 } := by
  decide +kernel

end FaultCorrelation.Topology
