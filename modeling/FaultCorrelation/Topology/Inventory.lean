import FaultCorrelation.Topology.Basic

/-! # Inventory in the topology

Adding an object makes the vertex of its resource, attaches the object and joins it to the
resources it declares relations to, making vertices for those that are unknown. Removing an object
takes away the edges it declared, but hands an edge over where the object at the other end declares
the relation too. Both count what they did.

An object that turns out to be unfit half-way keeps what was done before the unfit relation.
-/

namespace FaultCorrelation

/-- What a batch of inventory did to the graph. -/
structure InventoryChange where
  verticesAdded : Nat := 0
  verticesRemoved : Nat := 0
  edgesAdded : Nat := 0
  edgesRemoved : Nat := 0
  /-- Edges kept because the object at the other end declares the relation too. -/
  edgesHandedOver : Nat := 0
  /-- Objects that were unfit. -/
  skipped : Nat := 0
  deriving DecidableEq, Repr

namespace InventoryChange

/-- Whether any edge changed. -/
def changedEdges (change : InventoryChange) : Bool :=
  decide (0 < change.edgesAdded ∨ 0 < change.edgesRemoved ∨ 0 < change.edgesHandedOver)

/-- Count a vertex that may have been made. -/
def countVertex (change : InventoryChange) (made : Bool) : InventoryChange :=
  { change with verticesAdded := change.verticesAdded + made.toNat }

/-- Count an edge that may have been made. -/
def countEdge (change : InventoryChange) (made : Bool) : InventoryChange :=
  { change with edgesAdded := change.edgesAdded + made.toNat }

/-- Count a vertex that may have been dropped. -/
def countPruned (change : InventoryChange) (dropped : Bool) : InventoryChange :=
  { change with verticesRemoved := change.verticesRemoved + dropped.toNat }

end InventoryChange

namespace Topology

variable {W : Type} [Weight W]

/-- Whether an edge can be made from a declaration. -/
def isLinkable (declaration : Declaration W) : Bool :=
  !declaration.target.isBlank && Weight.usable declaration.weight

/-- Make one declared edge of an object, and the vertex at its other end if it is unknown. -/
def linkDeclared (graph : Topology W) (change : InventoryChange) (id : VertexId)
    (owner : ResourceKey) (declaration : Declaration W) : Topology W × InventoryChange :=
  let (graph, other, made) := graph.ensureVertex declaration.target
  let (graph, linked) := graph.link id other ⟨declaration.weight, declaration.kind, owner⟩
  (graph, (change.countVertex made).countEdge linked)

/-- Make the declared edges of an object in order, up to the first that cannot be made. -/
def linkAll (id : VertexId) (owner : ResourceKey) :
    Topology W → InventoryChange → List (Declaration W) → Topology W × InventoryChange
  | graph, change, [] => (graph, change)
  | graph, change, declaration :: rest =>
    if isLinkable declaration then
      let (graph, change) := graph.linkDeclared change id owner declaration
      linkAll id owner graph change rest
    else (graph, { change with skipped := change.skipped + 1 })

/-- Add one object. An object for a resource that has one already changes nothing. -/
def addObject (graph : Topology W) (change : InventoryChange) (object : InventoryObject W) :
    Topology W × InventoryChange :=
  if object.isAcceptable then
    let (graph, id, made) := graph.ensureVertex object.key
    let change := change.countVertex made
    if graph.vertices[id]?.any (fun vertex => vertex.inventory.isSome) then (graph, change)
    else
      let graph := graph.updateVertex id fun vertex => vertex.attach object graph.clock
      linkAll id object.key graph change (object.declarations graph.weights)
  else (graph, { change with skipped := change.skipped + 1 })

/-- Add a batch of objects. -/
def addInventory (graph : Topology W) (objects : List (InventoryObject W)) :
    Topology W × InventoryChange :=
  objects.foldl (fun (graph, change) object => graph.addObject change object) (graph, {})

/-- The declaration by which the object at a vertex keeps an edge to a resource. -/
def keeperOf? (graph : Topology W) (owner : VertexId) (target : ResourceKey) :
    Option (Tie W) := do
  let vertex ← graph.vertices[owner]?
  let object ← vertex.inventory
  let declaration ← object.declarationTo? graph.weights target
  some ⟨declaration.weight, declaration.kind, vertex.key⟩

/-- Hand an edge over to another declaration. -/
def handOver (graph : Topology W) (pair : VertexPair) (tie : Tie W) : Topology W :=
  { graph with
    edges := graph.edges.modify pair fun edge => { edge with toTie := tie }
    generation := graph.generation + 1 }

/-- Take back the edge from an object's vertex to a neighbour, if the object declared it. -/
def withdrawEdge (id : VertexId) (key : ResourceKey) (graph : Topology W)
    (change : InventoryChange) (other : VertexId) : Topology W × InventoryChange :=
  let pair := VertexPair.of id other
  if graph.edges[pair]?.any (fun edge => edge.declaredBy == key) then
    match graph.keeperOf? other key with
    | some tie =>
      (graph.handOver pair tie, { change with edgesHandedOver := change.edgesHandedOver + 1 })
    | none =>
      let graph := graph.unlink pair
      let (graph, dropped) := graph.prune other
      (graph, { change with edgesRemoved := change.edgesRemoved + 1 }.countPruned dropped)
  else (graph, change)

/-- Remove the object of a resource. Resources without an object are passed over. -/
def removeObject (graph : Topology W) (change : InventoryChange) (object : InventoryObject W) :
    Topology W × InventoryChange :=
  let key := object.key
  match graph.vertexFor? key with
  | some vertex =>
    if vertex.inventory.isSome then
      let id := vertex.id
      let (graph, change) := (graph.adjacent id).foldl
        (fun (graph, change) other => withdrawEdge id key graph change other) (graph, change)
      let graph := graph.updateVertex id fun vertex => vertex.detach graph.clock
      let (graph, dropped) := graph.prune id
      (graph, change.countPruned dropped)
    else (graph, change)
  | none => (graph, change)

/-- Remove a batch of objects; only their keys matter. -/
def removeInventory (graph : Topology W) (objects : List (InventoryObject W)) :
    Topology W × InventoryChange :=
  objects.foldl (fun (graph, change) object => graph.removeObject change object) (graph, {})

end Topology
end FaultCorrelation
