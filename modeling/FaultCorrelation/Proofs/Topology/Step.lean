import Mathlib.Logic.Relation
import FaultCorrelation.Proofs.Topology.Holding
import FaultCorrelation.Proofs.Topology.WellFormed

/-! # Steps of a topology

Whatever is done to a topology is done in elementary changes of seven kinds. `Topology.Step` says
so, with what each kind takes for granted. What elementary changes keep is kept by every operation,
and so by every sequence of operations. `Topology.BatchStep` lists those that inventory makes, with
what is counted for each.
-/

namespace FaultCorrelation.Topology

open Std

variable {W : Type} {graph next : Topology W}

/-- One elementary change. -/
inductive Step (graph : Topology W) : Topology W → Prop where
  | clock (now : Int) : Step graph { graph with clock := now }
  | ensureVertex (key : ResourceKey) : Step graph (graph.ensureVertex key).1
  | updateVertex (id : VertexId) {change : Vertex W → Vertex W}
      (kept : ∀ vertex, (change vertex).id = vertex.id ∧ (change vertex).key = vertex.key) :
      Step graph (graph.updateVertex id change)
  | link {a b : VertexId} (tie : Tie W) (here : a ∈ graph.vertices)
      (there : b ∈ graph.vertices) : Step graph (graph.link a b tie).1
  | unlink (pair : VertexPair) : Step graph (graph.unlink pair)
  | handOver {pair : VertexPair} (tie : Tie W) (joined : pair ∈ graph.edges) :
      Step graph (graph.handOver pair tie)
  | prune (id : VertexId) : Step graph (graph.prune id).1

/-- Any number of elementary changes. -/
abbrev Steps : Topology W → Topology W → Prop := Relation.ReflTransGen Step

theorem WellFormed.step (wellFormed : graph.WellFormed) (step : Step graph next) :
    next.WellFormed := by
  cases step with
  | clock now => exact wellFormed.clock now
  | ensureVertex key => exact wellFormed.ensureVertex key
  | updateVertex id kept => exact wellFormed.updateVertex id kept
  | link tie here there => exact wellFormed.link tie here there
  | unlink pair => exact wellFormed.unlink pair
  | handOver tie joined => exact wellFormed.handOver _ tie
  | prune id => exact wellFormed.prune id

theorem WellFormed.steps (wellFormed : graph.WellFormed) (steps : Steps graph next) :
    next.WellFormed := by
  induction steps with
  | refl => exact wellFormed
  | tail _ step ih => exact ih.step step

/-- An elementary change that inventory makes, with what is counted for it. -/
inductive BatchStep (before : Topology W × InventoryChange) :
    Topology W × InventoryChange → Prop where
  | ensureVertex (key : ResourceKey) : BatchStep before
      ((before.1.ensureVertex key).1, before.2.countVertex (before.1.ensureVertex key).2.2)
  | annotate (id : VertexId) {change : Vertex W → Vertex W}
      (kept : ∀ vertex, ((change vertex).id = vertex.id ∧ (change vertex).key = vertex.key) ∧
        (change vertex).alarms = vertex.alarms) :
      BatchStep before (before.1.updateVertex id change, before.2)
  | link {a b : VertexId} (tie : Tie W) (here : a ∈ before.1.vertices)
      (there : b ∈ before.1.vertices) : BatchStep before
      ((before.1.link a b tie).1, before.2.countEdge (before.1.link a b tie).2)
  | unlink {pair : VertexPair} (joined : pair ∈ before.1.edges) : BatchStep before
      (before.1.unlink pair, { before.2 with edgesRemoved := before.2.edgesRemoved + 1 })
  | handOver {pair : VertexPair} (tie : Tie W) (joined : pair ∈ before.1.edges) :
      BatchStep before (before.1.handOver pair tie,
        { before.2 with edgesHandedOver := before.2.edgesHandedOver + 1 })
  | prune (id : VertexId) : BatchStep before
      ((before.1.prune id).1, before.2.countPruned (before.1.prune id).2)
  | skip : BatchStep before (before.1, { before.2 with skipped := before.2.skipped + 1 })

/-- Any number of such changes. -/
abbrev Batch : Topology W × InventoryChange → Topology W × InventoryChange → Prop :=
  Relation.ReflTransGen BatchStep

theorem BatchStep.steps {before after : Topology W × InventoryChange}
    (step : BatchStep before after) : Steps before.1 after.1 := by
  cases step with
  | ensureVertex key => exact .single (.ensureVertex key)
  | annotate id kept => exact .single (.updateVertex id fun vertex => (kept vertex).1)
  | link tie here there => exact .single (.link tie here there)
  | unlink joined => exact .single (.unlink _)
  | handOver tie joined => exact .single (.handOver tie joined)
  | prune id => exact .single (.prune id)
  | skip => exact .refl

theorem steps_of_batch {before after : Topology W × InventoryChange} (batch : Batch before after) :
    Steps before.1 after.1 := by
  induction batch with
  | refl => exact .refl
  | tail _ step ih => exact ih.trans step.steps

theorem WellFormed.batch {before after : Topology W × InventoryChange}
    (wellFormed : before.1.WellFormed) (batch : Batch before after) : after.1.WellFormed :=
  wellFormed.steps (steps_of_batch batch)

/-- A fold of operations that consist of such changes. -/
theorem batch_foldl {α : Type} {operate : Topology W × InventoryChange → α →
      Topology W × InventoryChange}
    (each : ∀ before item, before.1.WellFormed → Batch before (operate before item))
    (items : List α) (before : Topology W × InventoryChange) (wellFormed : before.1.WellFormed) :
    Batch before (items.foldl operate before) := by
  induction items generalizing before with
  | nil => exact .refl
  | cons first rest ih =>
    have done := each before first wellFormed
    exact done.trans (ih _ (wellFormed.batch done))

theorem mem_ensureVertex {id : VertexId} (member : id ∈ graph.vertices) (key : ResourceKey) :
    id ∈ (graph.ensureVertex key).1.vertices := by
  rw [ensureVertex]
  split
  · exact member
  · exact ExtTreeMap.mem_insert.mpr (.inr member)

theorem vertices_link (graph : Topology W) (a b : VertexId) (tie : Tie W) :
    (graph.link a b tie).1.vertices = graph.vertices := by
  rw [link]
  split <;> rfl

theorem batch_withdrawEdge (id : VertexId) (key : ResourceKey) (graph : Topology W)
    (change : InventoryChange) (other : VertexId) :
    Batch (graph, change) (withdrawEdge id key graph change other) := by
  rw [withdrawEdge]
  dsimp only
  split
  · rename_i declared
    obtain ⟨_, found, _⟩ := (Option.any_eq_true ..).mp declared
    have joined := Collections.mem_of_getElem? found
    split
    · rename_i edge _
      exact .single (.handOver edge joined)
    · have unlinked : BatchStep (graph, change) _ := .unlink joined
      exact .tail (.single unlinked) (.prune other)
  · exact .refl

theorem batch_removeObject (wellFormed : graph.WellFormed) (change : InventoryChange)
    (object : InventoryObject W) : Batch (graph, change) (graph.removeObject change object) := by
  rw [removeObject]
  dsimp only
  split
  · rename_i vertex _
    split
    · have withdrawn := batch_foldl (fun before other _ =>
        batch_withdrawEdge vertex.id object.key before.1 before.2 other)
        (graph.adjacent vertex.id) (graph, change) wellFormed
      refine .tail (.tail withdrawn (.annotate vertex.id fun vertex => ?_)) (.prune vertex.id)
      rw [Vertex.detach]
      split <;> exact ⟨⟨rfl, rfl⟩, rfl⟩
    · exact .refl
  · exact .refl

theorem batch_removeInventory (wellFormed : graph.WellFormed)
    (objects : List (InventoryObject W)) : Batch (graph, {}) (graph.removeInventory objects) :=
  batch_foldl (fun before object wellFormed => batch_removeObject wellFormed before.2 object)
    objects (graph, {}) wellFormed

section Adding

variable [Weight W]

theorem batch_linkAll (wellFormed : graph.WellFormed) {id : VertexId}
    (here : id ∈ graph.vertices) (owner : ResourceKey) (change : InventoryChange)
    (declarations : List (Declaration W)) :
    Batch (graph, change) (linkAll id owner graph change declarations) := by
  induction declarations generalizing graph change with
  | nil => exact .refl
  | cons first rest ih =>
    rw [linkAll]
    split
    · obtain ⟨ensured, target, there, _⟩ := wellFormed.ensureVertex_spec first.target
      have kept := mem_ensureVertex here first.target
      have made : BatchStep (graph, change) ((graph.ensureVertex first.target).1,
          change.countVertex (graph.ensureVertex first.target).2.2) := .ensureVertex first.target
      have linked : BatchStep ((graph.ensureVertex first.target).1,
          change.countVertex (graph.ensureVertex first.target).2.2)
          (graph.linkDeclared change id owner first) :=
        .link _ kept (Collections.mem_of_getElem? there)
      have batch := Relation.ReflTransGen.tail (.single made) linked
      refine batch.trans (ih (wellFormed.batch batch) ?_ _)
      change id ∈ (Topology.link _ _ _ _).1.vertices
      rw [vertices_link]
      exact kept
    · exact .single .skip

theorem batch_addObject (wellFormed : graph.WellFormed) (change : InventoryChange)
    (object : InventoryObject W) : Batch (graph, change) (graph.addObject change object) := by
  have made : BatchStep (graph, change) ((graph.ensureVertex object.key).1,
      change.countVertex (graph.ensureVertex object.key).2.2) := .ensureVertex object.key
  obtain ⟨ensured, vertex, there, _⟩ := wellFormed.ensureVertex_spec object.key
  rw [addObject]
  split
  · dsimp only
    split
    · exact .single made
    · have attached : BatchStep ((graph.ensureVertex object.key).1,
          change.countVertex (graph.ensureVertex object.key).2.2)
          ((graph.ensureVertex object.key).1.updateVertex (graph.ensureVertex object.key).2.1
            fun vertex => vertex.attach object (graph.ensureVertex object.key).1.clock,
            change.countVertex (graph.ensureVertex object.key).2.2) :=
        .annotate _ fun _ => ⟨⟨rfl, rfl⟩, rfl⟩
      have batch := Relation.ReflTransGen.tail (.single made) attached
      refine batch.trans (batch_linkAll (wellFormed.batch batch) ?_ _ _ _)
      rw [ExtTreeMap.mem_iff_isSome_getElem?, WellFormed.getElem?_updateVertex, if_pos rfl, there]
      rfl
  · exact .single .skip

theorem batch_addInventory (wellFormed : graph.WellFormed)
    (objects : List (InventoryObject W)) : Batch (graph, {}) (graph.addInventory objects) :=
  batch_foldl (fun before object wellFormed => batch_addObject wellFormed before.2 object)
    objects (graph, {}) wellFormed

end Adding

theorem steps_putAlarm {alarm : Alarm} {id : VertexId} {isNew : Bool}
    (held : graph.putAlarm alarm = .ok (next, id, isNew)) : Steps graph next := by
  obtain ⟨key, _, rfl, rfl⟩ := putAlarm_spec held
  exact .tail (.single (.ensureVertex _)) (.updateVertex _ fun _ => ⟨rfl, rfl⟩)

theorem step_eraseAlarm (graph : Topology W) (id : VertexId) (alarm : String) :
    Step graph (graph.eraseAlarm id alarm) :=
  .updateVertex id fun vertex => by
    rw [Vertex.eraseAlarm]
    split <;> exact ⟨rfl, rfl⟩

theorem steps_releaseAlarm (graph : Topology W) (id : VertexId) (alarm : String) :
    Steps graph (graph.releaseAlarm id alarm) :=
  .tail (.single (step_eraseAlarm graph id alarm)) (.prune id)

/-- An operation on a topology. -/
inductive Operation (W : Type) where
  | addInventory (objects : List (InventoryObject W))
  | removeInventory (objects : List (InventoryObject W))
  | putAlarm (alarm : Alarm)
  | eraseAlarm (id : VertexId) (alarm : String)
  | prune (id : VertexId)
  | setClock (now : Int)

variable [Weight W]

/-- The topology after an operation. An alarm that cannot be held is passed over. -/
def operate (graph : Topology W) : Operation W → Topology W
  | .addInventory objects => (graph.addInventory objects).1
  | .removeInventory objects => (graph.removeInventory objects).1
  | .putAlarm alarm => ((graph.putAlarm alarm).map Prod.fst).toOption.getD graph
  | .eraseAlarm id alarm => graph.eraseAlarm id alarm
  | .prune id => (graph.prune id).1
  | .setClock now => { graph with clock := now }

/-- The topology after operations made in order. -/
def operateAll (graph : Topology W) (operations : List (Operation W)) : Topology W :=
  operations.foldl operate graph

theorem steps_operate (wellFormed : graph.WellFormed) (operation : Operation W) :
    Steps graph (graph.operate operation) := by
  cases operation with
  | addInventory objects => exact steps_of_batch (batch_addInventory wellFormed objects)
  | removeInventory objects => exact steps_of_batch (batch_removeInventory wellFormed objects)
  | putAlarm alarm =>
    rw [operate]
    cases held : graph.putAlarm alarm with
    | error cause => exact .refl
    | ok result => exact steps_putAlarm held
  | eraseAlarm id alarm => exact .single (step_eraseAlarm graph id alarm)
  | prune id => exact .single (.prune id)
  | setClock now => exact .single (.clock now)

theorem WellFormed.operate (wellFormed : graph.WellFormed) (operation : Operation W) :
    (graph.operate operation).WellFormed :=
  wellFormed.steps (steps_operate wellFormed operation)

end FaultCorrelation.Topology
