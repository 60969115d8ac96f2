import FaultCorrelation.Proofs.Topology.Removal
import FaultCorrelation.Proofs.Weight

/-! # Edges are the declared relations

Along every run of operations that takes in valid objects only, two vertices are joined by an edge
just in case the object at one of them declares a relation to the resource of the other, and each
edge carries the first relation that its declarer declares.
-/

namespace FaultCorrelation.Topology

variable {W : Type} {graph : Topology W}

/-- Every edge is the first relation that its declarer has to the resource at the other end. -/
theorem Declared.exists_declarer {exempt : VertexId → Prop} (declared : graph.Declared exempt)
    (wellFormed : graph.WellFormed) {pair : VertexPair} {edge : Edge W}
    (found : graph.edges[pair]? = some edge) :
    ∃ owner target : Vertex W, graph.vertices[owner.id]? = some owner ∧
      graph.vertices[target.id]? = some target ∧ owner.id ≠ target.id ∧
      pair = .of owner.id target.id ∧ edge.declaredBy = owner.key ∧
      ∃ object ∈ owner.inventory,
        object.firstRelation? graph.weights target.key = some (edge.weight, edge.kind) := by
  obtain ⟨owner, target, key, rfl, named, keeper⟩ :=
    declared.kept (tieAt?_eq_some.mpr ⟨edge, found, rfl⟩)
  have different := (wellFormed.of_mem_edges (Collections.mem_of_getElem? found)).1
  obtain ⟨called, object, held, relates⟩ := keeperOf?_eq_some.mp keeper
  obtain ⟨vertex, there, rfl⟩ := Option.map_eq_some_iff.mp named
  obtain ⟨source, here, attached⟩ := Option.bind_eq_some_iff.mp held
  obtain rfl := wellFormed.id_eq here
  obtain rfl := wellFormed.id_eq there
  rw [keyAt?, here, Option.map_some] at called
  exact ⟨source, vertex, here, there, different, rfl, (Option.some.inj called).symm, object,
    attached, relates⟩

/-- A declared relation joins its two resources. -/
theorem Declared.joined (declared : graph.Declared fun _ => False)
    (wellFormed : graph.WellFormed) {first second : Vertex W}
    (here : graph.vertices[first.id]? = some first)
    (there : graph.vertices[second.id]? = some second) (different : first.id ≠ second.id)
    (relates : ∃ object ∈ first.inventory, object.RelatesTo second.key) :
    VertexPair.of first.id second.id ∈ graph.edges := by
  obtain ⟨object, held, relates⟩ := relates
  have declares : ∃ declaration ∈ object.declarations graph.weights,
      declaration.target = second.key := InventoryObject.mem_declarations_target.mpr relates
  obtain ⟨declaration, member, same⟩ := declares
  obtain ⟨other, indexed, near⟩ := declared.joins
    (Option.bind_eq_some_iff.mpr ⟨first, here, held⟩) (fun absurd => absurd) declaration member
  rw [same, wellFormed.ids_iff.mpr ⟨second, there, rfl⟩] at indexed
  obtain rfl := Option.some.inj indexed
  exact near.resolve_left different

section Operations

variable [Weight W]

/-- Operations keep edges and declarations together. The objects that are added have to be such that
they can be linked, or else all objects are exempt. -/
theorem Declared.operate {exempt : VertexId → Prop} (declared : graph.Declared exempt)
    (wellFormed : graph.WellFormed) {operation : Operation W}
    (fit : (∀ id, exempt id) ∨ ∀ objects, operation = .addInventory objects → ∀ object ∈ objects,
      ∀ declaration ∈ object.declarations graph.weights, isLinkable declaration) :
    (graph.operate operation).Declared exempt := by
  cases operation with
  | addInventory objects =>
    have kept : ((graph.addInventory objects).1.WellFormed ∧
        (graph.addInventory objects).1.weights = graph.weights) ∧
          (graph.addInventory objects).1.Declared exempt := by
      rw [addInventory]
      refine List.foldlRecOn objects _ (motive := fun (before : Topology W × InventoryChange) =>
        (before.1.WellFormed ∧ before.1.weights = graph.weights) ∧ before.1.Declared exempt)
        ⟨⟨wellFormed, rfl⟩, declared⟩ ?_
      rintro ⟨before, change⟩ ⟨⟨wellFormed, same⟩, declared⟩ object member
      have steps := steps_of_batch (batch_addObject wellFormed change object)
      refine ⟨⟨wellFormed.steps steps, (weights_steps steps).trans same⟩, ?_⟩
      obtain ⟨half, complete⟩ := declared.addObject wellFormed change object
      rcases fit with all | linkable
      · exact half.mono fun id _ => all id
      · exact complete (same ▸ linkable objects rfl object member)
    exact kept.2
  | removeInventory objects => exact (declared.removeInventory wellFormed objects).1
  | putAlarm alarm =>
    rw [Topology.operate]
    cases held : graph.putAlarm alarm with
    | error cause => exact declared
    | ok result => exact (wellFormed.extends_putAlarm held).declared declared
  | eraseAlarm id alarm => exact (extends_eraseAlarm graph id alarm).declared declared
  | prune id => exact declared.prune wellFormed id
  | setClock now => exact (extends_clock graph now).declared declared

variable {weights : EdgeWeights W} {operations : List (Operation W)}

theorem declared_operateAll (usable : ∀ kind, Weight.usable (weights.of kind))
    (valid : ∀ objects, .addInventory objects ∈ operations → ∀ object ∈ objects, object.IsValid) :
    ((empty weights).operateAll operations).WellFormed ∧
      ((empty weights).operateAll operations).weights = weights ∧
      ((empty weights).operateAll operations).Declared fun _ => False := by
  have fresh : (empty weights).Declared fun _ => False :=
    ⟨fun found => by simp [tieAt?, empty] at found,
      fun there => by simp [objectAt?, empty] at there⟩
  have begun := wellFormed_empty weights
  have same : (empty weights).weights = weights := rfl
  rw [operateAll]
  generalize empty weights = graph at fresh begun same ⊢
  induction operations generalizing graph with
  | nil => exact ⟨begun, same, fresh⟩
  | cons first rest ih =>
    refine ih (fun objects member => valid objects (List.mem_cons_of_mem _ member)) _
      (fresh.operate begun (.inr ?_)) (begun.operate first)
      ((weights_steps (steps_operate begun first)).trans same)
    rintro objects rfl object member
    rw [same]
    exact (valid objects (List.mem_cons_self ..) object member).isLinkable usable

/-- The edges of a topology that takes in valid objects are the relations that its objects declare,
each with the first relation of its declarer. -/
theorem edges_exactly_declared
    (usable : ∀ kind, Weight.usable (weights.of kind))
    (valid : ∀ objects, .addInventory objects ∈ operations → ∀ object ∈ objects, object.IsValid) :
    let graph := (empty weights).operateAll operations
    (∀ first second : Vertex W, graph.vertices[first.id]? = some first →
      graph.vertices[second.id]? = some second → first.id ≠ second.id →
        (VertexPair.of first.id second.id ∈ graph.edges ↔
          (∃ object ∈ first.inventory, object.RelatesTo second.key) ∨
            ∃ object ∈ second.inventory, object.RelatesTo first.key)) ∧
    ∀ (pair : VertexPair) (edge : Edge W), graph.edges[pair]? = some edge →
      ∃ owner target : Vertex W, graph.vertices[owner.id]? = some owner ∧
        graph.vertices[target.id]? = some target ∧ owner.id ≠ target.id ∧
        pair = .of owner.id target.id ∧ edge.declaredBy = owner.key ∧
        ∃ object ∈ owner.inventory,
          object.firstRelation? weights target.key = some (edge.weight, edge.kind) := by
  obtain ⟨wellFormed, configured, declared⟩ := declared_operateAll usable valid
  generalize (empty weights).operateAll operations = graph at *
  subst configured
  refine ⟨fun first second here there different => ⟨fun joined => ?_, ?_⟩,
    fun _ _ => declared.exists_declarer wellFormed⟩
  · obtain ⟨edge, found⟩ := Collections.exists_getElem? joined
    obtain ⟨owner, target, ownerThere, targetThere, _, pair, _, object, held, relation⟩ :=
      declared.exists_declarer wellFormed found
    have relates := object.relatesTo_of_firstRelation? relation
    rcases VertexPair.of_eq_of.mp pair with ⟨one, two⟩ | ⟨one, two⟩ <;>
      rw [one] at here <;> rw [two] at there
    · obtain rfl := Option.some.inj (here.symm.trans ownerThere)
      obtain rfl := Option.some.inj (there.symm.trans targetThere)
      exact .inl ⟨object, held, relates⟩
    · obtain rfl := Option.some.inj (here.symm.trans targetThere)
      obtain rfl := Option.some.inj (there.symm.trans ownerThere)
      exact .inr ⟨object, held, relates⟩
  · rintro (relates | relates)
    · exact declared.joined wellFormed here there different relates
    · exact VertexPair.of_comm _ _ ▸
        declared.joined wellFormed there here different.symm relates

/-- Hosts `a` and `b` are each other's peer, and `b` also names `a` as a relative. The port on `b`
names its host twice, and itself. -/
def pairedHosts : List (InventoryObject ℚ) :=
  [ { InventoryObject.bare "node" "a" with peers := [⟨⟨"node", "b"⟩, some 3⟩] },
    { InventoryObject.bare "node" "b" with
      peers := [⟨⟨"node", "a"⟩, none⟩]
      relatives := [⟨⟨"node", "a"⟩, some 7⟩] },
    { InventoryObject.bare "port" "b/1" with
      parent := some ⟨"node", "b"⟩
      peers := [⟨⟨"node", "b"⟩, some 5⟩, ⟨⟨"port", "b/1"⟩, none⟩] } ]

/-- The hosts are added and `a` is removed again. -/
def pairedOperations : List (Operation ℚ) :=
  [.addInventory pairedHosts, .removeInventory (pairedHosts.take 1), .prune 0]

/-- Only `b` declares the edge to `a` now, which stays as a place without an object. -/
theorem edges_exactly_declared_paired :
    let graph := (empty ⟨1, 2, 4⟩).operateAll pairedOperations
    ∃ owner target : Vertex ℚ, graph.vertices[owner.id]? = some owner ∧
      graph.vertices[target.id]? = some target ∧ owner.id ≠ target.id ∧
      VertexPair.of 0 1 = .of owner.id target.id ∧ ⟨["node", "b"]⟩ = owner.key ∧
      ∃ object ∈ owner.inventory,
        object.firstRelation? ⟨1, 2, 4⟩ target.key = some (2, .peer) := by
  have found : (((empty ⟨1, 2, 4⟩).operateAll pairedOperations).edges[VertexPair.of 0 1]?).map
      (fun edge => (edge.weight, edge.kind, edge.declaredBy)) =
        some ((2 : ℚ), RelationKind.peer, ⟨["node", "b"]⟩) := by decide +kernel
  obtain ⟨⟨⟨weight, kind, declaredBy⟩, _⟩, found, same⟩ := Option.map_eq_some_iff.mp found
  obtain ⟨rfl, rfl, rfl⟩ : _ ∧ _ ∧ _ := by simpa using same
  refine (edges_exactly_declared (fun kind => ?_) fun objects member => ?_).2 _ _ found
  · cases kind <;> decide +kernel
  · obtain rfl : objects = pairedHosts := by simpa [pairedOperations] using member
    decide +kernel

end Operations
end FaultCorrelation.Topology
