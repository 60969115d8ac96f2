import Mathlib.Data.Finset.Card
import Mathlib.Data.Prod.Lex
import FaultCorrelation.Proofs.Distance.Search
import FaultCorrelation.Proofs.Topology.Step

/-! # Shortest paths from a queue

A search may as well keep its candidates in a queue that it never tidies. A vertex is pushed again
whenever something better is found for it, and entries of settled vertices are discarded as they
come up. Nothing is said of which entry comes up among equally cheap ones, nor of the order in which
neighbours are visited.

Every such search ends, and with the distances of the search that settles the nearest tentative
vertex of the lowest number: the queue holds all tentative distances, and whatever else it holds of
an unsettled vertex is no better (`Mirrors`).
-/

namespace FaultCorrelation

open Std
open Weight (IsOrdered)

variable {W : Type} [Weight W]

namespace ShortestPath

/-- A search that keeps a queue. -/
structure QueueState (W : Type) where
  settled : DistanceMap W
  /-- The least distance that was pushed for a vertex. -/
  best : DistanceMap W
  queue : List (VertexId × W)

namespace QueueState

/-- Push a neighbour if the distance through a vertex improves on what was pushed before. -/
def offer (cost : W) (state : QueueState W) (neighbor : VertexId × W) : QueueState W :=
  if neighbor.1 ∈ state.settled then state
  else if improves (cost + neighbor.2) state.best[neighbor.1]? then
    { state with
      best := state.best.insert neighbor.1 (cost + neighbor.2)
      queue := (neighbor.1, cost + neighbor.2) :: state.queue }
  else state

/-- The search before its first step. -/
def start (source : VertexId) : QueueState W :=
  ⟨∅, (∅ : DistanceMap W).insert source 0, [(source, 0)]⟩

end QueueState

/-- Whether a queue may give up an entry and keep a rest: no other entry is cheaper. -/
structure Pops (queue : List (VertexId × W)) (entry : VertexId × W)
    (rest : List (VertexId × W)) : Prop where
  perm : queue.Perm (entry :: rest)
  least {other : VertexId × W} : other ∈ rest → entry.2 ≤ other.2

/-- One step of a search: an entry comes up. -/
inductive QueueStep (graph : Topology W) (state : QueueState W) : QueueState W → Prop where
  | discard {entry : VertexId × W} {rest : List (VertexId × W)}
      (popped : Pops state.queue entry rest) (known : entry.1 ∈ state.settled) :
      QueueStep graph state { state with queue := rest }
  | settle {entry : VertexId × W} {rest neighbors : List (VertexId × W)}
      (popped : Pops state.queue entry rest) (unknown : entry.1 ∉ state.settled)
      (listed : neighbors.Perm (graph.neighbors entry.1)) :
      QueueStep graph state (neighbors.foldl (QueueState.offer entry.2)
        { state with settled := state.settled.insert entry.1 entry.2, queue := rest })

/-- Any number of steps. -/
abbrev QueueRun (graph : Topology W) : QueueState W → QueueState W → Prop :=
  Relation.ReflTransGen (QueueStep graph)

/-- How a queue keeps the tentative distances. -/
structure Mirrors (state : QueueState W) (tentative : DistanceMap W) : Prop where
  queued {id : VertexId} {cost : W} : tentative[id]? = some cost → (id, cost) ∈ state.queue
  /-- Other entries have been overtaken. -/
  overtaken {id : VertexId} {cost : W} : (id, cost) ∈ state.queue → id ∉ state.settled →
    ∃ less, tentative[id]? = some less ∧ less ≤ cost
  best {id : VertexId} : id ∉ state.settled → state.best[id]? = tentative[id]?

theorem settled_offer (cost : W) (state : QueueState W) (neighbor : VertexId × W) :
    (state.offer cost neighbor).settled = state.settled := by
  rw [QueueState.offer]
  split
  · rfl
  · split <;> rfl

theorem settled_foldl_offer (cost : W) (neighbors : List (VertexId × W)) (state : QueueState W) :
    (neighbors.foldl (QueueState.offer cost) state).settled = state.settled := by
  induction neighbors generalizing state with
  | nil => rfl
  | cons first rest ih => rw [List.foldl_cons, ih, settled_offer]

section Ordered

variable [IsOrdered W] {state next : QueueState W} {tentative : DistanceMap W}
  {entry : VertexId × W} {rest : List (VertexId × W)}

theorem exists_pops {queue : List (VertexId × W)} (nonempty : queue ≠ []) :
    ∃ entry rest, Pops queue entry rest := by
  have spec := foldl_nearer queue none
  split at spec
  · exact absurd spec.2 nonempty
  · rename_i nearest _
    obtain ⟨listed, least, _⟩ := spec
    obtain ⟨earlier, later, rfl⟩ :=
      List.append_of_mem (listed.resolve_left fun absurd => nomatch absurd)
    refine ⟨nearest, earlier ++ later, List.perm_middle, fun {other} member => least other ?_⟩
    exact List.perm_middle.mem_iff.mpr (List.mem_cons_of_mem _ member)

/-- A search goes on as long as the queue has an entry. -/
theorem exists_queueStep (graph : Topology W) (nonempty : state.queue ≠ []) :
    ∃ next, QueueStep graph state next := by
  obtain ⟨entry, rest, popped⟩ := exists_pops nonempty
  by_cases known : entry.1 ∈ state.settled
  · exact ⟨_, .discard popped known⟩
  · exact ⟨_, .settle popped known (.refl _)⟩

theorem mirrors_start (source : VertexId) :
    Mirrors (W := W) (.start source) ((∅ : DistanceMap W).insert source 0) := by
  refine ⟨fun found => ?_, fun member _ => ?_, fun _ => rfl⟩
  · simp only [ExtTreeMap.getElem?_insert, LawfulEqOrd.compare_eq_iff_eq] at found
    split at found
    · rename_i same
      rw [← same, ← Option.some.inj found]
      exact List.mem_singleton_self _
    · simp at found
  · obtain ⟨rfl, rfl⟩ := Prod.mk.inj (List.mem_singleton.mp member)
    exact ⟨0, by simp, Weight.le_refl 0⟩

theorem Mirrors.offer (mirrors : Mirrors state tentative) (cost : W) (neighbor : VertexId × W) :
    Mirrors (state.offer cost neighbor) (relax state.settled cost tentative neighbor) := by
  rw [QueueState.offer, relax]
  split
  · exact mirrors
  rename_i unknown
  rw [mirrors.best unknown]
  dsimp only
  split
  · rename_i better
    simp only [improves, Option.all_eq_true, decide_eq_true_eq] at better
    refine ⟨fun {id value} found => ?_, fun {id value} member unsettled => ?_,
      fun {id} unsettled => ?_⟩ <;>
      simp only [ExtTreeMap.getElem?_insert, LawfulEqOrd.compare_eq_iff_eq] at *
    · split at found
      · rename_i same
        rw [← same, ← Option.some.inj found]
        exact List.mem_cons_self
      · exact List.mem_cons_of_mem _ (mirrors.queued found)
    · rcases List.mem_cons.mp member with same | member
      · obtain ⟨rfl, rfl⟩ := Prod.mk.inj same
        exact ⟨_, if_pos rfl, Weight.le_refl _⟩
      · obtain ⟨less, there, below⟩ := mirrors.overtaken member unsettled
        split
        · rename_i same
          subst same
          exact ⟨_, rfl, IsOrdered.le_trans (Weight.le_of_lt (better less there)) below⟩
        · exact ⟨less, there, below⟩
    · rw [mirrors.best unsettled]
  · exact mirrors

theorem Mirrors.foldl_offer (cost : W) (neighbors : List (VertexId × W))
    (mirrors : Mirrors state tentative) :
    Mirrors (neighbors.foldl (QueueState.offer cost) state)
      (neighbors.foldl (relax state.settled cost) tentative) := by
  induction neighbors generalizing state tentative with
  | nil => exact mirrors
  | cons first rest ih =>
    have rest := ih (mirrors.offer cost first)
    rwa [settled_offer] at rest

omit [IsOrdered W] in
/-- The tentative distances without the vertex whose entry has come up. -/
theorem Mirrors.pop (mirrors : Mirrors state tentative) (popped : Pops state.queue entry rest) :
    Mirrors { state with settled := state.settled.insert entry.1 entry.2, queue := rest }
      (tentative.erase entry.1) := by
  have unsettled {id : VertexId} (fresh : id ∉ state.settled.insert entry.1 entry.2) :
      entry.1 ≠ id ∧ id ∉ state.settled := by
    simpa [ExtTreeMap.mem_insert, not_or] using fresh
  have erased {id : VertexId} (different : entry.1 ≠ id) :
      (tentative.erase entry.1)[id]? = tentative[id]? := by
    simp [ExtTreeMap.getElem?_erase, different]
  refine ⟨fun {id cost} found => ?_, fun {id cost} member fresh => ?_, fun {id} fresh => ?_⟩
  · by_cases different : entry.1 = id
    · simp [different] at found
    · rw [erased different] at found
      refine (List.mem_cons.mp (popped.perm.mem_iff.mp (mirrors.queued found))).resolve_left ?_
      exact fun same => different (same ▸ rfl)
  · rw [erased (unsettled fresh).1]
    exact mirrors.overtaken (popped.perm.mem_iff.mpr (List.mem_cons_of_mem _ member))
      (unsettled fresh).2
  · rw [erased (unsettled fresh).1]
    exact mirrors.best (unsettled fresh).2

/-- The entry of an unsettled vertex that comes up has a least tentative distance. -/
theorem Mirrors.nearest (mirrors : Mirrors state tentative)
    (popped : Pops state.queue entry rest) (unknown : entry.1 ∉ state.settled) :
    tentative[entry.1]? = some entry.2 ∧
      ∀ (other : VertexId) (more : W), tentative[other]? = some more → entry.2 ≤ more := by
  have least (other : VertexId) (more : W) (found : tentative[other]? = some more) :
      entry.2 ≤ more := by
    rcases List.mem_cons.mp (popped.perm.mem_iff.mp (mirrors.queued found)) with same | member
    · rw [← same]
      exact Weight.le_refl _
    · exact popped.least member
  obtain ⟨less, there, below⟩ :=
    mirrors.overtaken (popped.perm.mem_iff.mpr List.mem_cons_self) unknown
  rw [IsOrdered.le_antisymm below (least _ _ there)] at there
  exact ⟨there, least⟩

end Ordered
end ShortestPath

namespace Topology

open ShortestPath

variable [IsOrdered W] {graph : Topology W} {source : VertexId} {state next : QueueState W}

/-- Whether a search goes on as one that settles nearest tentative vertices does. -/
def Tracks (graph : Topology W) (source : VertexId) (state : QueueState W) : Prop :=
  ∃ tentative, Frontier graph source state.settled tentative ∧ Mirrors state tentative

theorem tracks_start (graph : Topology W) (source : VertexId) :
    graph.Tracks source (.start source) :=
  ⟨_, frontier_start graph source, mirrors_start source⟩

theorem Tracks.step (tracks : graph.Tracks source state) (wellFormed : graph.WellFormed)
    (positive : graph.NonNegative) (step : QueueStep graph state next) :
    graph.Tracks source next := by
  obtain ⟨tentative, frontier, mirrors⟩ := tracks
  cases step with
  | @discard entry rest popped known =>
    have later {other : VertexId × W} (member : other ∈ rest) : other ∈ state.queue :=
      popped.perm.mem_iff.mpr (List.mem_cons_of_mem _ member)
    refine ⟨tentative, frontier, fun {id cost} found => ?_, fun member => ?_, mirrors.best⟩
    · -- The entry given up is not tentative: its vertex is settled.
      refine (List.mem_cons.mp (popped.perm.mem_iff.mp (mirrors.queued found))).resolve_left ?_
      rintro rfl
      exact frontier.apart known (Collections.mem_of_getElem? found)
    · exact mirrors.overtaken (later member)
  | @settle entry rest neighbors popped unknown listed =>
    obtain ⟨here, least⟩ := mirrors.nearest popped unknown
    have settling := settling_of_least wellFormed state.settled here least listed
    refine ⟨_, ?_, (mirrors.pop popped).foldl_offer entry.2 neighbors⟩
    rw [settled_foldl_offer]
    exact frontier.settle settling positive

theorem Tracks.run (tracks : graph.Tracks source state) (wellFormed : graph.WellFormed)
    (positive : graph.NonNegative) (run : QueueRun graph state next) :
    graph.Tracks source next := by
  induction run with
  | refl => exact tracks
  | tail _ step ih => exact ih.step wellFormed positive step

/-- With an empty queue, nothing is tentative any more. -/
theorem Tracks.measured (tracks : graph.Tracks source state) (done : state.queue = []) :
    Measured graph source state.settled := by
  obtain ⟨tentative, frontier, mirrors⟩ := tracks
  refine frontier.measured fun id => ?_
  by_contra found
  obtain ⟨cost, found⟩ := Option.ne_none_iff_exists'.mp found
  exact List.not_mem_nil (done ▸ mirrors.queued found)

/-- The vertices a search can still settle. -/
def unsettled (graph : Topology W) (source : VertexId) (state : QueueState W) :
    Finset VertexId :=
  (source :: graph.adjacency.keys).toFinset.filter (· ∉ state.settled)

omit [IsOrdered W] in
theorem WellFormed.mem_of_walk (wellFormed : graph.WellFormed) {id : VertexId} {cost : W}
    (walk : graph.Walk source id cost) : id ∈ source :: graph.adjacency.keys := by
  cases walk with
  | start => exact List.mem_cons_self
  | step _ joined =>
    refine List.mem_cons_of_mem _ (ExtTreeMap.mem_keys.mpr ?_)
    exact wellFormed.mem_adjacency (Collections.mem_of_getElem? joined)

/-- A step settles a vertex or makes the queue shorter. -/
theorem Tracks.descends (tracks : graph.Tracks source state) (wellFormed : graph.WellFormed)
    (step : QueueStep graph state next) :
    Prod.Lex (· < ·) (· < ·) ((graph.unsettled source next).card, next.queue.length)
      ((graph.unsettled source state).card, state.queue.length) := by
  obtain ⟨tentative, frontier, mirrors⟩ := tracks
  cases step with
  | discard popped known =>
    refine .right _ ?_
    rw [popped.perm.length_eq]
    exact Nat.lt_succ_self _
  | @settle entry rest neighbors popped unknown listed =>
    have reached := frontier.offered (mirrors.nearest popped unknown).1
    refine .left _ _ (Finset.card_lt_card ((Finset.ssubset_iff_of_subset fun id member => ?_).mpr
      ⟨entry.1, ?_, ?_⟩))
    · simp only [unsettled, settled_foldl_offer, Finset.mem_filter, ExtTreeMap.mem_insert,
        not_or] at member ⊢
      exact ⟨member.1, member.2.2⟩
    · simp only [unsettled, Finset.mem_filter, List.mem_toFinset]
      exact ⟨wellFormed.mem_of_walk reached, unknown⟩
    · simp [unsettled, settled_foldl_offer]

theorem Tracks.acc {state : QueueState W} (tracks : graph.Tracks source state)
    (wellFormed : graph.WellFormed) (positive : graph.NonNegative) :
    Acc (fun next state => QueueStep graph state next) state :=
  .intro state fun _ step => (tracks.step wellFormed positive step).acc wellFormed positive
termination_by ((graph.unsettled source state).card, state.queue.length)
decreasing_by exact tracks.descends wellFormed step

omit [IsOrdered W] in
/-- Walks lead to the vertices that are connected. -/
theorem exists_walk_iff (wellFormed : graph.WellFormed) {id : VertexId} :
    (∃ cost, graph.Walk source id cost) ↔
      Relation.ReflTransGen (fun u v => v ∈ graph.adjacent u) source id := by
  constructor
  · rintro ⟨_, walk⟩
    induction walk with
    | start => exact .refl
    | step _ joined ih =>
      exact ih.tail (wellFormed.mem_adjacent_iff.mpr (Collections.mem_of_getElem? joined))
  · intro connected
    induction connected with
    | refl => exact ⟨0, .start⟩
    | tail _ adjacent ih =>
      obtain ⟨cost, walk⟩ := ih
      obtain ⟨edge, joined⟩ :=
        Collections.exists_getElem? (wellFormed.mem_adjacent_iff.mp adjacent)
      exact ⟨_, walk.step joined⟩

/-- The distances from a vertex are those of the connected vertices, each the least sum of weights
over all walks, added up from the source outwards. Every search with a queue ends, and with these
distances: the order of neighbours does not matter, nor does the choice among equally cheap
entries. -/
theorem distancesFrom_spec (wellFormed : graph.WellFormed) (nonNegative : graph.NonNegative)
    (source : VertexId) :
    (∀ id, id ∈ graph.distancesFrom source ↔
      Relation.ReflTransGen (fun u v => v ∈ graph.adjacent u) source id) ∧
    (∀ id cost, (graph.distancesFrom source)[id]? = some cost ↔
      graph.IsShortest source id cost) ∧
    Acc (fun next state => QueueStep graph state next) (.start source) ∧
    ∀ last, QueueRun graph (.start source) last →
      (last.queue ≠ [] → ∃ next, QueueStep graph last next) ∧
        (last.queue = [] → last.settled = graph.distancesFrom source) := by
  have measured := measured_distancesFrom wellFormed nonNegative source
  have tracks := tracks_start graph source
  refine ⟨fun id => ?_, fun id cost => ⟨measured.shortest, fun shortest => ?_⟩,
    tracks.acc wellFormed nonNegative, fun last run => ⟨exists_queueStep graph, fun done => ?_⟩⟩
  · rw [← exists_walk_iff wellFormed]
    refine ⟨fun member => ?_, fun ⟨cost, walk⟩ => measured.complete walk⟩
    obtain ⟨cost, found⟩ := Collections.exists_getElem? member
    exact ⟨cost, (measured.shortest found).walk⟩
  · obtain ⟨less, found⟩ := Collections.exists_getElem? (measured.complete shortest.walk)
    have told := measured.shortest found
    rw [found, IsOrdered.le_antisymm (told.least shortest.walk) (shortest.least told.walk)]
  · exact ((tracks.run wellFormed nonNegative run).measured done).eq measured

/-- Two ways lead from host `a` to host `d`, equally long, one of them along a weightless edge
first. Host `e` stands alone. -/
def hostsAround : List (InventoryObject ℚ) :=
  [ { InventoryObject.bare "node" "a" with
      peers := [⟨⟨"node", "b"⟩, some 0⟩, ⟨⟨"node", "c"⟩, some 1⟩] },
    { InventoryObject.bare "node" "d" with
      peers := [⟨⟨"node", "b"⟩, some 1⟩, ⟨⟨"node", "c"⟩, some 0⟩] },
    InventoryObject.bare "node" "e" ]

/-- The topology of the hosts. -/
def aroundGraph : Topology ℚ := (empty ⟨1, 2, 4⟩).operate (.addInventory hostsAround)

theorem distancesFrom_around :
    aroundGraph.WellFormed ∧ aroundGraph.NonNegative ∧ aroundGraph.IsShortest 0 3 1 ∧
      ¬ Relation.ReflTransGen (fun u v => v ∈ aroundGraph.adjacent u) 0 4 ∧
      ∀ last, QueueRun aroundGraph (.start 0) last → last.queue = [] →
        last.settled[3]? = some 1 := by
  have wellFormed : aroundGraph.WellFormed := (wellFormed_empty _).operate _
  have nonNegative : aroundGraph.NonNegative := by decide +kernel
  obtain ⟨connected, shortest, _, ends⟩ := distancesFrom_spec wellFormed nonNegative 0
  have found : (aroundGraph.distancesFrom 0)[3]? = some 1 := by decide +kernel
  refine ⟨wellFormed, nonNegative, (shortest 3 1).mp found,
    mt (connected 4).mpr (by decide +kernel), fun last run done => ?_⟩
  rw [(ends last run).2 done, found]

end Topology
end FaultCorrelation
