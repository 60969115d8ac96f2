import FaultCorrelation.Topology.Basic

/-! # Shortest paths

A label-setting search from one source. `search` settles the nearest tentative vertex, the one of
the lowest number among equals, and offers each of its neighbours the distance through it. The
length of a path is the sum of its weights taken from the source outwards.

Each step settles a vertex that was not settled before, so a graph whose adjacency lists `n`
vertices is done after `n + 1` steps.
-/

namespace FaultCorrelation

/-- Distances from one source, by vertex. -/
abbrev DistanceMap (W : Type) := Std.ExtTreeMap VertexId W

namespace ShortestPath

variable {W : Type} [Weight W]

/-- The nearer of two candidates; the first if neither is nearer. -/
def nearer (best : Option (VertexId × W)) (id : VertexId) (cost : W) : Option (VertexId × W) :=
  match best with
  | none => some (id, cost)
  | some (known, least) => if cost < least then some (id, cost) else some (known, least)

/-- The nearest tentative vertex. -/
def nearest? (tentative : DistanceMap W) : Option (VertexId × W) :=
  tentative.foldl nearer none

/-- Whether a distance improves on what is known. -/
def improves (candidate : W) (known : Option W) : Bool :=
  known.all fun least => decide (candidate < least)

/-- Offer a neighbour the distance through a vertex that was just settled. -/
def relax (settled : DistanceMap W) (cost : W) (tentative : DistanceMap W)
    (neighbor : VertexId × W) : DistanceMap W :=
  if neighbor.1 ∈ settled then tentative
  else
    let candidate := cost + neighbor.2
    if improves candidate tentative[neighbor.1]? then tentative.insert neighbor.1 candidate
    else tentative

/-- Settle vertices until none is tentative. -/
def search (neighbors : VertexId → List (VertexId × W)) :
    (steps : Nat) → (settled tentative : DistanceMap W) → DistanceMap W
  | 0, settled, _ => settled
  | steps + 1, settled, tentative =>
    match nearest? tentative with
    | none => settled
    | some (id, cost) =>
      let settled := settled.insert id cost
      search neighbors steps settled
        ((neighbors id).foldl (relax settled cost) (tentative.erase id))

end ShortestPath

/-- The distance from a vertex to every vertex that a path joins to it. -/
def Topology.distancesFrom {W : Type} [Weight W] (graph : Topology W) (source : VertexId) :
    DistanceMap W :=
  ShortestPath.search graph.neighbors (graph.adjacency.size + 1) ∅
    ((∅ : DistanceMap W).insert source 0)

end FaultCorrelation
