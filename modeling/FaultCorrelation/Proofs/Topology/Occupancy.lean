import FaultCorrelation.Proofs.Topology.Removal

/-! # No vertex is left over

A vertex is made for something to stand at it, and dropped once nothing does: every vertex carries
an alarm, an inventory object or an edge. While an operation is under way a vertex may wait for what
it was made for, or have lost what it carried, so `InUse` exempts some vertices.
-/

namespace FaultCorrelation.Topology

open Std

variable {W : Type} {graph next : Topology W} {id : VertexId} {exempt more : VertexId → Prop}

/-- Whether all vertices but exempt ones carry something. -/
def InUse (graph : Topology W) (exempt : VertexId → Prop) : Prop :=
  ∀ id, graph.isUnused id → exempt id

theorem InUse.mono (inUse : graph.InUse exempt) (wider : ∀ id, exempt id → more id) :
    graph.InUse more :=
  fun id unused => wider id (inUse id unused)

theorem WellFormed.isUnused_iff (wellFormed : graph.WellFormed) :
    graph.isUnused id ↔ (∃ vertex, graph.vertices[id]? = some vertex ∧ vertex.alarms.isEmpty ∧
      vertex.inventory = none) ∧ ∀ other, VertexPair.of id other ∉ graph.edges := by
  rw [isUnused, Bool.and_eq_true, Option.any_eq_true, List.isEmpty_iff,
    List.eq_nil_iff_forall_not_mem]
  simp only [wellFormed.mem_adjacent_iff, Bool.and_eq_true, Vertex.isActive, Bool.not_not,
    Option.isNone_iff_eq_none]

/-- A vertex that is made is still to be used. -/
theorem InUse.ensureVertex (inUse : graph.InUse exempt) (key : ResourceKey) :
    (graph.ensureVertex key).1.InUse fun other =>
      other = (graph.ensureVertex key).2.1 ∨ exempt other := by
  rw [Topology.ensureVertex]
  split
  · exact inUse.mono fun _ => .inr
  intro id unused
  by_cases made : id = graph.nextId
  · exact .inl made
  refine .inr (inUse id ?_)
  rw [isUnused] at unused ⊢
  rwa [ExtTreeMap.getElem?_insert, if_neg (by simpa using Ne.symm made)] at unused

/-- What is put at a vertex uses it. -/
theorem InUse.updateVertex (inUse : graph.InUse fun other => other = id ∨ exempt other)
    {change : Vertex W → Vertex W}
    (used : ∀ vertex, graph.vertices[id]? = some vertex →
      (change vertex).isActive ∨ (change vertex).inventory.isSome) :
    (graph.updateVertex id change).InUse exempt := by
  intro other unused
  rw [isUnused, Bool.and_eq_true, WellFormed.getElem?_updateVertex] at unused
  split at unused
  · rename_i here
    subst here
    obtain ⟨bare, _⟩ := unused
    cases there : graph.vertices[id]? with
    | none => simp [there] at bare
    | some vertex => rcases used vertex there with active | attached <;> simp_all
  · rename_i away
    have unused : graph.isUnused other := by
      rw [isUnused, Bool.and_eq_true]
      exact unused
    exact (inUse other unused).resolve_left (Ne.symm away)

/-- Taking something from a vertex may leave it unused. -/
theorem InUse.emptied (inUse : graph.InUse exempt) (change : Vertex W → Vertex W) :
    (graph.updateVertex id change).InUse fun other => other = id ∨ exempt other := by
  intro other unused
  by_cases here : other = id
  · exact .inl here
  refine .inr (inUse other ?_)
  rw [isUnused] at unused ⊢
  rwa [WellFormed.getElem?_updateVertex, if_neg (Ne.symm here)] at unused

/-- An edge uses the vertex it leads to, and a vertex that is linked to itself has an object. -/
theorem InUse.link {a b : VertexId} (inUse : graph.InUse fun other => other = b ∨ exempt other)
    (wellFormed : graph.WellFormed) (tie : Tie W) (attached : (graph.objectAt? a).isSome)
    (there : b ∈ graph.vertices) : (graph.link a b tie).1.InUse exempt := by
  have here : a ∈ graph.vertices := by
    obtain ⟨object, attached⟩ := Option.isSome_iff_exists.mp attached
    obtain ⟨vertex, there, _⟩ := Option.bind_eq_some_iff.mp attached
    exact Collections.mem_of_getElem? there
  have linked := wellFormed.link tie here there
  intro other unused
  have bare := (linked.isUnused_iff.mp unused).2
  have before : graph.isUnused other := by
    rw [wellFormed.isUnused_iff]
    obtain ⟨vertex, lonely⟩ := linked.isUnused_iff.mp unused
    rw [vertices_link] at vertex
    refine ⟨vertex, fun third joined => lonely third ?_⟩
    rw [Topology.link]
    split
    · exact joined
    · exact ExtTreeMap.mem_insert.mpr (.inr joined)
  refine (inUse other before).resolve_left ?_
  rintro rfl
  rw [Topology.link] at bare
  split at bare
  · rename_i near
    rcases near with rfl | joined
    · rw [objectAt?_of_isUnused before] at attached
      contradiction
    · exact bare a (VertexPair.of_comm a other ▸ joined)
  · exact bare a (ExtTreeMap.mem_insert.mpr (.inl (by simp [VertexPair.of_comm])))

/-- Taking an edge away may leave its ends unused. -/
theorem InUse.unlink (inUse : graph.InUse exempt) (wellFormed : graph.WellFormed)
    (a b : VertexId) : (graph.unlink (.of a b)).InUse fun other =>
      other = b ∨ other = a ∨ exempt other := by
  have unlinked := wellFormed.unlink (.of a b)
  intro other unused
  by_cases ends : other = b ∨ other = a
  · exact ends.elim .inl fun here => .inr (.inl here)
  obtain ⟨away, apart⟩ := not_or.mp ends
  refine .inr (.inr (inUse other ?_))
  obtain ⟨bare, lonely⟩ := unlinked.isUnused_iff.mp unused
  rw [Topology.unlink] at bare lonely
  split at lonely
  case isFalse missing =>
    rw [if_neg missing] at bare
    exact wellFormed.isUnused_iff.mpr ⟨bare, lonely⟩
  rename_i joined
  rw [if_pos joined] at bare
  refine wellFormed.isUnused_iff.mpr ⟨bare, fun third joined =>
    lonely third (ExtTreeMap.mem_erase.mpr ⟨?_, joined⟩)⟩
  intro same
  rcases VertexPair.of_eq_of.mp (LawfulEqOrd.eq_of_compare same) with ⟨rfl, _⟩ | ⟨_, rfl⟩
  · exact apart rfl
  · exact away rfl

/-- A vertex that carries nothing is dropped. -/
theorem InUse.prune (inUse : graph.InUse fun other => other = id ∨ exempt other) :
    (graph.prune id).1.InUse exempt := by
  rw [Topology.prune]
  intro other unused
  cases found : graph.vertices[id]? with
  | none =>
    rw [found] at unused
    refine (inUse other unused).resolve_left ?_
    rintro rfl
    rw [isUnused, found] at unused
    contradiction
  | some vertex =>
    rw [found] at unused
    dsimp only at unused
    split at unused
    · rw [isUnused, ExtTreeMap.getElem?_erase] at unused
      split at unused
      · contradiction
      · rename_i away
        refine (inUse other ?_).resolve_left fun here => away (here ▸ compare_self)
        rw [isUnused]
        rwa [adjacent, ExtTreeMap.getElem?_erase, if_neg away] at unused
    · rename_i used
      refine (inUse other unused).resolve_left ?_
      rintro rfl
      exact used unused

theorem InUse.withdrawEdge (inUse : graph.InUse fun other => other = id ∨ exempt other)
    (wellFormed : graph.WellFormed) (key : ResourceKey) (change : InventoryChange)
    (other : VertexId) : (Topology.withdrawEdge id key graph change other).1.InUse fun other =>
      other = id ∨ exempt other := by
  rw [Topology.withdrawEdge]
  dsimp only
  split
  · split
    · exact inUse
    · refine InUse.prune ((inUse.unlink wellFormed id other).mono fun third => ?_)
      rintro (here | here | either)
      · exact .inl here
      · exact .inr (.inl here)
      · exact .inr either
  · exact inUse

theorem InUse.removeObject (inUse : graph.InUse exempt) (wellFormed : graph.WellFormed)
    (change : InventoryChange) (object : InventoryObject W) :
    (graph.removeObject change object).1.InUse exempt := by
  rw [Topology.removeObject]
  dsimp only
  split
  case h_2 => exact inUse
  rename_i vertex _
  split
  case isFalse => exact inUse
  have withdrawn : ((graph.adjacent vertex.id).foldl (fun before other =>
      Topology.withdrawEdge vertex.id object.key before.1 before.2 other) (graph, change)).1.InUse
        fun other => other = vertex.id ∨ exempt other := by
    have begun : graph.WellFormed ∧ graph.InUse fun other => other = vertex.id ∨ exempt other :=
      ⟨wellFormed, inUse.mono fun _ => .inr⟩
    refine (List.foldlRecOn (graph.adjacent vertex.id) _
      (motive := fun (before : Topology W × InventoryChange) => before.1.WellFormed ∧
        before.1.InUse fun other => other = vertex.id ∨ exempt other) begun ?_).2
    rintro ⟨before, change⟩ ⟨wellFormed, inUse⟩ other _
    exact ⟨wellFormed.batch (batch_withdrawEdge vertex.id object.key before change other),
      inUse.withdrawEdge wellFormed object.key change other⟩
  refine InUse.prune ((withdrawn.emptied _).mono fun other => ?_)
  rintro (here | either)
  · exact .inl here
  · exact either

theorem InUse.removeInventory (inUse : graph.InUse exempt) (wellFormed : graph.WellFormed)
    (objects : List (InventoryObject W)) :
    (graph.removeInventory objects).1.InUse exempt := by
  refine (List.foldlRecOn objects _ (motive := fun (before : Topology W × InventoryChange) =>
    before.1.WellFormed ∧ before.1.InUse exempt) ⟨wellFormed, inUse⟩ ?_).2
  rintro ⟨before, change⟩ ⟨wellFormed, inUse⟩ object _
  exact ⟨wellFormed.batch (batch_removeObject wellFormed change object),
    inUse.removeObject wellFormed change object⟩

section Adding

variable [Weight W]

theorem InUse.linkAll (inUse : graph.InUse exempt) (wellFormed : graph.WellFormed)
    (attached : (graph.objectAt? id).isSome) (owner : ResourceKey) (change : InventoryChange)
    (declarations : List (Declaration W)) :
    (Topology.linkAll id owner graph change declarations).1.InUse exempt := by
  induction declarations generalizing graph change with
  | nil => exact inUse
  | cons first rest ih =>
    rw [Topology.linkAll]
    split
    · obtain ⟨ensured, vertex, there, _⟩ := wellFormed.ensureVertex_spec first.target
      have attached : ((graph.ensureVertex first.target).1.objectAt? id).isSome := by
        rwa [(wellFormed.extends_ensureVertex first.target).object]
      have linked := (inUse.ensureVertex first.target).link ensured
        ⟨first.weight, first.kind, owner⟩ attached (Collections.mem_of_getElem? there)
      refine ih linked (ensured.link _ ?_ (Collections.mem_of_getElem? there)) ?_ _
      · obtain ⟨object, attached⟩ := Option.isSome_iff_exists.mp attached
        obtain ⟨vertex, there, _⟩ := Option.bind_eq_some_iff.mp attached
        exact Collections.mem_of_getElem? there
      · rwa [objectAt?, vertices_link]
    · exact inUse

theorem InUse.addObject (inUse : graph.InUse exempt) (wellFormed : graph.WellFormed)
    (change : InventoryChange) (object : InventoryObject W) :
    (graph.addObject change object).1.InUse exempt := by
  rw [Topology.addObject]
  split
  case isFalse => exact inUse
  have made := inUse.ensureVertex object.key
  obtain ⟨ensured, vertex, there, _⟩ := wellFormed.ensureVertex_spec object.key
  dsimp only
  rw [there, Option.any_some]
  split
  · rename_i known
    refine fun other unused => (made other unused).resolve_left ?_
    rintro rfl
    have bare := objectAt?_of_isUnused unused
    rw [objectAt?, there, Option.bind_some] at bare
    rw [bare] at known
    contradiction
  · refine InUse.linkAll ?_ (ensured.updateVertex _ fun vertex => ?_) ?_ _ _ _
    · exact made.updateVertex fun _ _ => .inr rfl
    · exact ⟨rfl, rfl⟩
    · rw [objectAt?, WellFormed.getElem?_updateVertex, if_pos rfl, there]
      rfl

theorem InUse.addInventory (inUse : graph.InUse exempt) (wellFormed : graph.WellFormed)
    (objects : List (InventoryObject W)) : (graph.addInventory objects).1.InUse exempt := by
  refine (List.foldlRecOn objects _ (motive := fun (before : Topology W × InventoryChange) =>
    before.1.WellFormed ∧ before.1.InUse exempt) ⟨wellFormed, inUse⟩ ?_).2
  rintro ⟨before, change⟩ ⟨wellFormed, inUse⟩ object _
  exact ⟨wellFormed.batch (batch_addObject wellFormed change object),
    inUse.addObject wellFormed change object⟩

end Adding

theorem InUse.putAlarm (inUse : graph.InUse exempt) {alarm : Alarm} {isNew : Bool}
    (held : graph.putAlarm alarm = .ok (next, id, isNew)) : next.InUse exempt := by
  obtain ⟨key, _, rfl, rfl⟩ := putAlarm_spec held
  refine (inUse.ensureVertex key).updateVertex fun vertex _ => .inl ?_
  rw [Vertex.isActive, Bool.not_eq_true']
  refine ExtTreeMap.isEmpty_eq_false_iff.mpr fun empty => ?_
  have member : alarm.id ∈ (vertex.putAlarm alarm (graph.ensureVertex key).1.clock).alarms :=
    ExtTreeMap.mem_insert_self
  rw [empty] at member
  exact ExtTreeMap.not_mem_empty member

theorem InUse.releaseAlarm (inUse : graph.InUse exempt) (id : VertexId) (alarm : String) :
    (graph.releaseAlarm id alarm).InUse exempt :=
  InUse.prune (inUse.emptied _)

end FaultCorrelation.Topology
