import FaultCorrelation.Alarm.Basic
import FaultCorrelation.Inventory.Basic
import Std.Data.ExtTreeSet

/-! # The topology graph

A `Topology` is an undirected weighted graph of resources. A vertex stands for one resource key;
it may carry the inventory object of the resource and holds the alarms raised against it. Each edge
remembers the object that declared it. This module holds the graph, its look-ups and the elementary
changes of vertices and edges; batches of inventory are in `Topology.Inventory` and alarms in
`Topology.Alarms`.

The generation of the edges counts every change of an edge, so that derived data can tell whether
it is out of date.
-/

namespace FaultCorrelation

/-- The number of a vertex; numbers are never reused. -/
abbrev VertexId := Nat

/-- An unordered pair of vertices. -/
structure VertexPair where
  low : VertexId
  high : VertexId
  low_le_high : low ≤ high
  deriving DecidableEq

namespace VertexPair

/-- The pair of two vertices, in whichever order they come. -/
def of (a b : VertexId) : VertexPair :=
  if h : a ≤ b then ⟨a, b, h⟩ else ⟨b, a, Nat.le_of_not_le h⟩

/-- Whether a vertex is one of the pair. -/
def contains (pair : VertexPair) (id : VertexId) : Bool := pair.low == id || pair.high == id

theorem of_comm (a b : VertexId) : of a b = of b a := by
  grind [of]

instance : Ord VertexPair := ⟨compareLex (compareOn low) (compareOn high)⟩

theorem compare_def (a b : VertexPair) :
    compare a b = compareLex (compareOn low) (compareOn high) a b := rfl

instance : Std.TransOrd VertexPair :=
  inferInstanceAs (Std.TransCmp (compareLex (compareOn low) (compareOn high)))

instance : Std.LawfulEqOrd VertexPair where
  compare_self :=
    (inferInstance : Std.ReflCmp (compareLex (compareOn low) (compareOn high))).compare_self
  eq_of_compare {a b} h := by
    rw [compare_def, compareLex_eq_eq] at h
    obtain ⟨low, high, _⟩ := a
    obtain ⟨low', high', _⟩ := b
    simp only [compareOn, Nat.compare_eq_eq] at h
    obtain ⟨rfl, rfl⟩ := h
    rfl

end VertexPair

/-- A resource in the graph. -/
structure Vertex (W : Type) where
  id : VertexId
  key : ResourceKey
  inventory : Option (InventoryObject W)
  alarms : AlarmMap
  created : Int
  updated : Int

namespace Vertex

variable {W : Type}

/-- A vertex that carries nothing yet. -/
def new (id : VertexId) (key : ResourceKey) (now : Int) : Vertex W :=
  { id, key, inventory := none, alarms := ∅, created := now, updated := now }

/-- Whether the vertex holds an alarm. -/
def isActive (vertex : Vertex W) : Bool := !vertex.alarms.isEmpty

/-- Attach an inventory object. -/
def attach (vertex : Vertex W) (object : InventoryObject W) (now : Int) : Vertex W :=
  { vertex with inventory := some object, updated := now }

/-- Detach the inventory object, if there is one. -/
def detach (vertex : Vertex W) (now : Int) : Vertex W :=
  if vertex.inventory.isSome then { vertex with inventory := none, updated := now } else vertex

/-- Hold an alarm, in place of an earlier instance of it. -/
def putAlarm (vertex : Vertex W) (alarm : Alarm) (now : Int) : Vertex W :=
  { vertex with alarms := vertex.alarms.insert alarm.id alarm, updated := now }

/-- Let go of an alarm, if it is held. -/
def eraseAlarm (vertex : Vertex W) (alarm : String) (now : Int) : Vertex W :=
  if alarm ∈ vertex.alarms then
    { vertex with alarms := vertex.alarms.erase alarm, updated := now }
  else vertex

end Vertex

/-- What a declared relation makes of an edge: its weight and kind, and the object that declared
it. -/
structure Tie (W : Type) where
  weight : W
  kind : RelationKind
  declaredBy : ResourceKey

/-- A weighted edge. -/
structure Edge (W : Type) extends Tie W where
  /-- The vertices that it joins. -/
  pair : VertexPair

/-- An alarm together with the vertex that holds it. -/
structure LocatedAlarm where
  vertex : VertexId
  alarm : Alarm
  deriving DecidableEq, Repr

/-- The graph of resources. -/
structure Topology (W : Type) where
  /-- The weights of relations that carry none of their own. -/
  weights : EdgeWeights W
  clock : Int := 0
  nextId : VertexId := 0
  vertices : Std.ExtTreeMap VertexId (Vertex W) := ∅
  ids : Std.ExtTreeMap ResourceKey VertexId := ∅
  edges : Std.ExtTreeMap VertexPair (Edge W) := ∅
  /-- For each vertex that has edges, the vertices at their other ends. -/
  adjacency : Std.ExtTreeMap VertexId (Std.ExtTreeSet VertexId) := ∅
  /-- How often an edge was added, removed or handed over. -/
  generation : Nat := 0

namespace Topology

variable {W : Type}

/-- The vertex of a resource, if the resource is known. -/
def vertexFor? (graph : Topology W) (key : ResourceKey) : Option (Vertex W) :=
  graph.ids[key]?.bind fun id => graph.vertices[id]?

/-- The vertices next to a vertex, in ascending order. -/
def adjacent (graph : Topology W) (id : VertexId) : List VertexId :=
  (graph.adjacency[id]?.map fun others => others.toList).getD []

/-- The vertices next to a vertex with the weights of the edges between, in ascending order. -/
def neighbors (graph : Topology W) (id : VertexId) : List (VertexId × W) :=
  (graph.adjacent id).filterMap fun other =>
    graph.edges[VertexPair.of id other]?.map fun edge => (other, edge.weight)

/-- The vertices that hold alarms. -/
def workingSet (graph : Topology W) : List (Vertex W) :=
  graph.vertices.values.filter Vertex.isActive

/-- Every alarm that is held, by vertex and alarm id. -/
def activeAlarms (graph : Topology W) : List LocatedAlarm :=
  graph.workingSet.flatMap fun vertex => vertex.alarms.values.map (LocatedAlarm.mk vertex.id)

/-- How many alarms are held. -/
def alarmCount (graph : Topology W) : Nat :=
  (graph.vertices.values.map fun vertex => vertex.alarms.size).foldl (· + ·) 0

/-- The vertex that holds an alarm, found through the alarm's resource. -/
def vertexOfAlarm? (graph : Topology W) (alarm : Alarm) : Option VertexId := do
  let key ← alarm.resource
  let vertex ← graph.vertexFor? key
  if alarm.id ∈ vertex.alarms then some vertex.id else none

/-- The vertex of a resource, made if there was none; and whether it was made. -/
def ensureVertex (graph : Topology W) (key : ResourceKey) : Topology W × VertexId × Bool :=
  match graph.ids[key]? with
  | some id => (graph, id, false)
  | none =>
    let id := graph.nextId
    ({ graph with
        nextId := id + 1
        vertices := graph.vertices.insert id (.new id key graph.clock)
        ids := graph.ids.insert key id }, id, true)

/-- Change a vertex in place. -/
def updateVertex (graph : Topology W) (id : VertexId) (change : Vertex W → Vertex W) :
    Topology W :=
  { graph with vertices := graph.vertices.modify id change }

/-- Note one vertex as adjacent to another. -/
def addAdjacent (adjacency : Std.ExtTreeMap VertexId (Std.ExtTreeSet VertexId))
    (source target : VertexId) : Std.ExtTreeMap VertexId (Std.ExtTreeSet VertexId) :=
  adjacency.alter source fun others => some ((others.getD ∅).insert target)

/-- Forget one vertex as adjacent to another; a vertex without neighbours has no entry. -/
def removeAdjacent (adjacency : Std.ExtTreeMap VertexId (Std.ExtTreeSet VertexId))
    (source target : VertexId) : Std.ExtTreeMap VertexId (Std.ExtTreeSet VertexId) :=
  adjacency.alter source fun others =>
    (others.map fun others => others.erase target).filter fun others => !others.isEmpty

/-- Join two vertices by an edge, unless they are one vertex or are joined already. -/
def link (graph : Topology W) (a b : VertexId) (tie : Tie W) : Topology W × Bool :=
  let pair := VertexPair.of a b
  if a = b ∨ pair ∈ graph.edges then (graph, false)
  else
    ({ graph with
        edges := graph.edges.insert pair { tie with pair }
        adjacency := addAdjacent (addAdjacent graph.adjacency a b) b a
        generation := graph.generation + 1 }, true)

/-- Take an edge away. -/
def unlink (graph : Topology W) (pair : VertexPair) : Topology W :=
  if pair ∈ graph.edges then
    { graph with
      edges := graph.edges.erase pair
      adjacency :=
        removeAdjacent (removeAdjacent graph.adjacency pair.low pair.high) pair.high pair.low
      generation := graph.generation + 1 }
  else graph

/-- Whether a vertex is there and carries nothing: no alarm, no inventory object, no edge. -/
def isUnused (graph : Topology W) (id : VertexId) : Bool :=
  graph.vertices[id]?.any (fun vertex => !vertex.isActive && vertex.inventory.isNone) &&
    (graph.adjacent id).isEmpty

/-- Drop a vertex that carries nothing; and whether it was dropped. -/
def prune (graph : Topology W) (id : VertexId) : Topology W × Bool :=
  match graph.vertices[id]? with
  | some vertex =>
    if graph.isUnused id then
      ({ graph with
          vertices := graph.vertices.erase id
          ids := graph.ids.erase vertex.key
          adjacency := graph.adjacency.erase id }, true)
    else (graph, false)
  | none => (graph, false)

end Topology
end FaultCorrelation
