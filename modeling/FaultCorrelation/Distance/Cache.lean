import FaultCorrelation.Distance.ShortestPath
import FaultCorrelation.Fault

/-! # Remembered distances

A bounded table of distances between vertices, one entry for each unordered pair. A search from one
vertex answers for many pairs; as long as there is room to spare the answers nobody asked for are
kept too. When the table is full, the entry that was used least recently makes room. The table is
emptied as soon as the edges of the graph have changed.

Every use of an entry gives it a new stamp; `recency` lists the entries by stamp.
-/

namespace FaultCorrelation

/-- A remembered distance and the stamp of its last use. -/
structure Memo (W : Type) where
  distance : W
  stamp : Nat

/-- How often the table was asked, answered and emptied. -/
structure CacheStats where
  entries : Nat
  hits : Nat
  misses : Nat
  invalidations : Nat
  deriving DecidableEq, Repr

/-- An order in which the side results of a search are visited. -/
structure VisitOrder (W : Type) where
  arrange : List (VertexId × W) → List (VertexId × W)
  perm : ∀ results, (arrange results).Perm results

/-- Visit vertices in ascending order. -/
def VisitOrder.ascending {W : Type} : VisitOrder W := ⟨id, fun _ => .refl _⟩

/-- The table of remembered distances. -/
structure DistanceCache (W : Type) where
  capacity : Nat
  capacity_pos : 0 < capacity
  entries : Std.ExtTreeMap VertexPair (Memo W) := ∅
  /-- The pairs by stamp, least recently used first. -/
  recency : Std.ExtTreeMap Nat VertexPair := ∅
  nextStamp : Nat := 0
  /-- The generation of edges that the entries belong to. -/
  generation : Option Nat := none
  hits : Nat := 0
  misses : Nat := 0
  invalidations : Nat := 0

namespace DistanceCache

variable {W : Type}

/-- An empty table; it has room for one entry at least. -/
def ofCapacity (capacity : Nat) : DistanceCache W :=
  { capacity := max capacity 1, capacity_pos := by omega }

/-- The number of entries. -/
def size (cache : DistanceCache W) : Nat := cache.entries.size

/-- The counters. -/
def stats (cache : DistanceCache W) : CacheStats :=
  ⟨cache.size, cache.hits, cache.misses, cache.invalidations⟩

/-- Forget everything. -/
def invalidate (cache : DistanceCache W) : DistanceCache W :=
  { cache with entries := ∅, recency := ∅, invalidations := cache.invalidations + 1 }

/-- Forget everything that belongs to another generation of edges. -/
def sync (cache : DistanceCache W) (generation : Nat) : DistanceCache W :=
  if cache.generation = some generation then cache
  else
    let cache := if cache.generation.isSome then cache.invalidate else cache
    { cache with generation := some generation }

/-- Give an entry a new stamp. -/
def touch (cache : DistanceCache W) (pair : VertexPair) (memo : Memo W) : DistanceCache W :=
  { cache with
    entries := cache.entries.insert pair { memo with stamp := cache.nextStamp }
    recency := (cache.recency.erase memo.stamp).insert cache.nextStamp pair
    nextStamp := cache.nextStamp + 1 }

/-- Drop the entry that was used least recently. -/
def dropOldest (cache : DistanceCache W) : DistanceCache W :=
  match cache.recency.minKey? with
  | none => cache
  | some stamp =>
    { cache with
      entries := (cache.recency[stamp]?.map cache.entries.erase).getD cache.entries
      recency := cache.recency.erase stamp }

/-- Drop the entry of a pair. -/
def dropPair (cache : DistanceCache W) (pair : VertexPair) : DistanceCache W :=
  match cache.entries[pair]? with
  | none => cache
  | some memo =>
    { cache with entries := cache.entries.erase pair, recency := cache.recency.erase memo.stamp }

/-- Remember a distance, in place of the oldest entry if the table is full. -/
def remember (cache : DistanceCache W) (pair : VertexPair) (distance : W) : DistanceCache W :=
  let cache := cache.dropPair pair
  let cache := if cache.capacity ≤ cache.size then cache.dropOldest else cache
  { cache with
    entries := cache.entries.insert pair ⟨distance, cache.nextStamp⟩
    recency := cache.recency.insert cache.nextStamp pair
    nextStamp := cache.nextStamp + 1 }

/-- Remember the side results of a search from `source`, keeping one place free for the distance to
`requested`. -/
def rememberSides (source requested : VertexId) :
    DistanceCache W → List (VertexId × W) → DistanceCache W
  | cache, [] => cache
  | cache, (target, distance) :: rest =>
    if cache.capacity ≤ cache.size + 1 then cache
    else
      let pair := VertexPair.of source target
      if target = source ∨ target = requested ∨ pair ∈ cache.entries then
        rememberSides source requested cache rest
      else rememberSides source requested (cache.remember pair distance) rest

variable [Weight W]

/-- Answer for a pair that is not in the table, by a search from its first vertex. -/
def compute (order : VisitOrder W) (cache : DistanceCache W) (graph : Topology W)
    (source target : VertexId) : W × DistanceCache W :=
  let cache := { cache with misses := cache.misses + 1 }
  let reached := graph.distancesFrom source
  let distance := reached[target]?.getD Weight.noPath
  let cache := rememberSides source target cache (order.arrange reached.toList)
  (distance, cache.remember (VertexPair.of source target) distance)

/-- The distance between two vertices of the graph: zero from a vertex to itself, `noPath` where no
path joins them. A vertex that is not in the graph is a fault. -/
def distance (order : VisitOrder W) (graph : Topology W) (a b : VertexId)
    (cache : DistanceCache W) : Except Fault W × DistanceCache W :=
  let cache := cache.sync graph.generation
  if a ∉ graph.vertices then (.error (.state (.unknownVertex a)), cache)
  else if b ∉ graph.vertices then (.error (.state (.unknownVertex b)), cache)
  else if a = b then (.ok 0, cache)
  else
    let pair := VertexPair.of a b
    match cache.entries[pair]? with
    | some memo => (.ok memo.distance, { cache.touch pair memo with hits := cache.hits + 1 })
    | none =>
      let (distance, cache) := cache.compute order graph a b
      (.ok distance, cache)

end DistanceCache

/-- Computations that ask the table for distances and may meet an unknown vertex. The table keeps
what it learned also where they fail. -/
abbrev DistanceM (W : Type) := ExceptT Fault (StateM (DistanceCache W))

/-- Ask the table. -/
def DistanceM.ask {W : Type} [Weight W] (graph : Topology W) (a b : VertexId) : DistanceM W W :=
  fun cache => cache.distance .ascending graph a b

end FaultCorrelation
