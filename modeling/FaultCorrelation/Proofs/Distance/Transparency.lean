import FaultCorrelation.Distance.Cache
import FaultCorrelation.Proofs.Distance.Search
import FaultCorrelation.Proofs.Topology.Step

/-! # Remembered distances are right

Topology and table may change and be asked in any order: the answer is the distance in the present
topology, as a table that remembers nothing would give it. The table notices by the generation of
edges that what it remembers is out of date. Every change of an edge makes a new generation, so that
the entries of a table that belong to the present generation belong to the present edges
(`DistanceCache.Fits`).
-/

namespace FaultCorrelation

open Std
open Weight (IsOrdered IsExact)

variable {W : Type}

namespace Topology

variable {graph next last : Topology W}

/-- Whether a topology has come from another by changes that are noticed. -/
structure Follows (next graph : Topology W) : Prop where
  le : graph.generation ≤ next.generation
  edges_eq : next.generation = graph.generation → next.edges = graph.edges

theorem Follows.refl (graph : Topology W) : Follows graph graph := ⟨Nat.le_refl _, fun _ => rfl⟩

theorem Follows.trans (second : last.Follows next) (first : next.Follows graph) :
    last.Follows graph where
  le := Nat.le_trans first.le second.le
  edges_eq same := by
    have between : next.generation = graph.generation :=
      Nat.le_antisymm (same ▸ second.le) first.le
    rw [second.edges_eq (same.trans between.symm), first.edges_eq between]

theorem follows_of_lt (newer : graph.generation < next.generation) : next.Follows graph :=
  ⟨Nat.le_of_lt newer, fun same => absurd same (Nat.ne_of_gt newer)⟩

theorem follows_of_eq (generation : next.generation = graph.generation)
    (edges : next.edges = graph.edges) : next.Follows graph :=
  ⟨Nat.le_of_eq generation.symm, fun _ => edges⟩

/-- Every change of an edge makes a new generation. -/
theorem follows_step (step : Step graph next) : next.Follows graph := by
  cases step with
  | clock now => exact follows_of_eq rfl rfl
  | ensureVertex key =>
    rw [ensureVertex]
    split
    · exact .refl graph
    · exact follows_of_eq rfl rfl
  | updateVertex id kept => exact follows_of_eq rfl rfl
  | link edge here there =>
    rw [link]
    split
    · exact .refl graph
    · exact follows_of_lt (Nat.lt_succ_self _)
  | unlink pair =>
    rw [unlink]
    split
    · exact follows_of_lt (Nat.lt_succ_self _)
    · exact .refl graph
  | handOver edge joined => exact follows_of_lt (Nat.lt_succ_self _)
  | prune id =>
    rcases WellFormed.prune_cases graph id with same | ⟨_, _, _, dropped⟩
    · rw [same]
      exact .refl graph
    · rw [dropped]
      exact follows_of_eq rfl rfl

theorem follows_steps (steps : Steps graph next) : next.Follows graph := by
  induction steps with
  | refl => exact .refl graph
  | tail _ step ih => exact (follows_step step).trans ih

end Topology

namespace DistanceCache

variable [Weight W] {graph next : Topology W} {cache : DistanceCache W}

/-- Whether what a table remembers is right, as it is bound to be only where no edge has a negative
weight. -/
def IsRight (graph : Topology W) (cache : DistanceCache W) : Prop :=
  graph.NonNegative → ∀ (pair : VertexPair) (memo : Memo W), cache.entries[pair]? = some memo →
    graph.IsDistance pair.low pair.high memo.distance

/-- What a table is like that has been asked about a topology and what came before it. -/
structure Fits (graph : Topology W) (cache : DistanceCache W) : Prop where
  le {generation : Nat} : cache.generation = some generation → generation ≤ graph.generation
  bare : cache.generation = none → cache.entries = ∅
  right : cache.generation = some graph.generation → cache.IsRight graph

theorem isRight_of_empty (empty : cache.entries = ∅) : cache.IsRight graph := by
  intro _ pair memo found
  simp [empty] at found

theorem fits_ofCapacity (graph : Topology W) (capacity : Nat) :
    (ofCapacity capacity : DistanceCache W).Fits graph where
  le absurd := nomatch absurd
  bare _ := rfl
  right absurd := nomatch absurd

namespace Fits

/-- The topology may change. -/
theorem follow (fits : cache.Fits graph) (follows : next.Follows graph) : cache.Fits next where
  le same := Nat.le_trans (fits.le same) follows.le
  bare := fits.bare
  right same positive pair memo found := by
    have equal := Nat.le_antisymm (fits.le same) follows.le
    have edges := follows.edges_eq equal
    exact (fits.right (equal ▸ same) (positive.congr edges.symm) pair memo found).congr edges

theorem invalidate (fits : cache.Fits graph) : cache.invalidate.Fits graph where
  le := fits.le
  bare _ := rfl
  right _ := isRight_of_empty rfl

end Fits

/-- A table in step with a topology. -/
structure InStep (graph : Topology W) (cache : DistanceCache W) : Prop where
  generation_eq : cache.generation = some graph.generation
  right : cache.IsRight graph

theorem InStep.fits (inStep : cache.InStep graph) : cache.Fits graph where
  le same := by
    rw [inStep.generation_eq] at same
    exact Nat.le_of_eq (Option.some.inj same).symm
  bare none := by
    rw [inStep.generation_eq] at none
    contradiction
  right _ := inStep.right

theorem Fits.sync (fits : cache.Fits graph) : (cache.sync graph.generation).InStep graph := by
  rw [DistanceCache.sync]
  split
  · rename_i same
    exact ⟨same, fits.right same⟩
  · refine ⟨rfl, isRight_of_empty ?_⟩
    split
    · rfl
    · rename_i none
      exact fits.bare (by simpa using none)

omit [Weight W] in
theorem getElem?_dropPair {pair other : VertexPair} {memo : Memo W}
    (found : (cache.dropPair pair).entries[other]? = some memo) :
    cache.entries[other]? = some memo := by
  rw [dropPair] at found
  split at found
  · exact found
  · rw [ExtTreeMap.getElem?_erase] at found
    split at found
    · contradiction
    · exact found

omit [Weight W] in
theorem getElem?_dropOldest {pair : VertexPair} {memo : Memo W}
    (found : cache.dropOldest.entries[pair]? = some memo) : cache.entries[pair]? = some memo := by
  rw [dropOldest] at found
  split at found
  · exact found
  rename_i stamp _
  dsimp only at found
  cases noted : cache.recency[stamp]? with
  | none =>
    rw [noted] at found
    exact found
  | some oldest =>
    rw [noted, Option.map_some, Option.getD_some, ExtTreeMap.getElem?_erase] at found
    split at found
    · contradiction
    · exact found

omit [Weight W] in
/-- Remembering a distance brings its entry and no other. -/
theorem getElem?_remember {pair other : VertexPair} {distance : W} {memo : Memo W}
    (found : (cache.remember pair distance).entries[other]? = some memo) :
    pair = other ∧ memo.distance = distance ∨ cache.entries[other]? = some memo := by
  rw [remember] at found
  simp only [ExtTreeMap.getElem?_insert, LawfulEqOrd.compare_eq_iff_eq] at found
  split at found
  · rename_i same
    exact .inl ⟨same, by rw [← Option.some.inj found]⟩
  · right
    split at found
    · exact getElem?_dropPair (getElem?_dropOldest found)
    · exact getElem?_dropPair found

omit [Weight W] in
theorem generation_remember (cache : DistanceCache W) (pair : VertexPair) (distance : W) :
    (cache.remember pair distance).generation = cache.generation := by
  have dropped : (cache.dropPair pair).generation = cache.generation := by
    rw [dropPair]
    split <;> rfl
  have oldest (cache : DistanceCache W) : cache.dropOldest.generation = cache.generation := by
    rw [dropOldest]
    split <;> rfl
  rw [remember, ← dropped]
  dsimp only
  split
  · exact oldest _
  · rfl

namespace InStep

variable {source target : VertexId} {distance : W}

theorem touch (inStep : cache.InStep graph) {pair : VertexPair} {memo : Memo W}
    (found : cache.entries[pair]? = some memo) : (cache.touch pair memo).InStep graph where
  generation_eq := inStep.generation_eq
  right positive other entry present := by
    simp only [DistanceCache.touch, ExtTreeMap.getElem?_insert,
      LawfulEqOrd.compare_eq_iff_eq] at present
    split at present
    · rename_i same
      rw [← same, ← Option.some.inj present]
      exact inStep.right positive pair memo found
    · exact inStep.right positive other entry present

variable [IsExact W]

theorem remember (inStep : cache.InStep graph)
    (told : graph.NonNegative → graph.IsDistance source target distance) :
    (cache.remember (VertexPair.of source target) distance).InStep graph where
  generation_eq := (generation_remember _ _ _).trans inStep.generation_eq
  right positive other entry present := by
    rcases getElem?_remember present with ⟨rfl, same⟩ | before
    · rw [same]
      exact Topology.isDistance_of.mpr (told positive)
    · exact inStep.right positive other entry before

/-- Whatever side results are kept, and in whatever order they come. -/
theorem rememberSides (inStep : cache.InStep graph) (requested : VertexId)
    {results : List (VertexId × W)}
    (told : graph.NonNegative → ∀ entry ∈ results, graph.IsDistance source entry.1 entry.2) :
    (DistanceCache.rememberSides source requested cache results).InStep graph := by
  induction results generalizing cache with
  | nil => exact inStep
  | cons first rest ih =>
    have later := fun positive entry member =>
      told positive entry (List.mem_cons_of_mem first member)
    rw [DistanceCache.rememberSides]
    dsimp only
    split
    · exact inStep
    · split
      · exact ih inStep later
      · exact ih (inStep.remember fun positive => told positive first (List.mem_cons_self ..)) later

end InStep

section Answers

variable [IsExact W]

omit [IsExact W] in
/-- The search gives distances, and `noPath` for what it does not reach. -/
theorem isDistance_of_measured {source target : VertexId} {distances : DistanceMap W}
    (measured : graph.Measured source distances) :
    graph.IsDistance source target (distances[target]?.getD Weight.noPath) := by
  cases found : distances[target]? with
  | some cost => exact .inl (measured.shortest found)
  | none =>
    refine .inr ⟨fun cost walk => ?_, rfl⟩
    obtain ⟨value, there⟩ := Collections.exists_getElem? (measured.complete walk)
    rw [found] at there
    contradiction

/-- What a question comes to, and what becomes of the table. -/
theorem Fits.distance (fits : cache.Fits graph) (wellFormed : graph.WellFormed)
    (order : VisitOrder W) (a b : VertexId) :
    (cache.distance order graph a b).2.Fits graph ∧
      (a ∉ graph.vertices ∧
          (cache.distance order graph a b).1 = .error (.state (.unknownVertex a)) ∨
        a ∈ graph.vertices ∧ b ∉ graph.vertices ∧
          (cache.distance order graph a b).1 = .error (.state (.unknownVertex b)) ∨
        a ∈ graph.vertices ∧ b ∈ graph.vertices ∧ ∃ distance,
          (cache.distance order graph a b).1 = .ok distance ∧
            (graph.NonNegative → graph.IsDistance a b distance)) := by
  have inStep := fits.sync
  rw [DistanceCache.distance]
  generalize cache.sync graph.generation = cache at inStep
  dsimp only
  by_cases here : a ∈ graph.vertices
  case neg => exact ⟨by rw [if_pos here]; exact inStep.fits, .inl ⟨here, by rw [if_pos here]⟩⟩
  rw [if_neg (not_not.mpr here)]
  by_cases there : b ∈ graph.vertices
  case neg =>
    rw [if_pos there]
    exact ⟨inStep.fits, .inr (.inl ⟨here, there, rfl⟩)⟩
  rw [if_neg (not_not.mpr there)]
  by_cases same : a = b
  case pos =>
    rw [if_pos same]
    exact ⟨inStep.fits, .inr (.inr ⟨here, there, 0, rfl,
      fun positive => same ▸ Topology.isDistance_self positive a⟩)⟩
  rw [if_neg same]
  cases found : cache.entries[VertexPair.of a b]? with
  | some memo =>
    have touched := (inStep.touch found).fits
    exact ⟨⟨touched.le, touched.bare, touched.right⟩, .inr (.inr ⟨here, there, memo.distance, rfl,
      fun positive => Topology.isDistance_of.mp (inStep.right positive _ memo found)⟩)⟩
  | none =>
    have measured := fun positive => Topology.measured_distancesFrom wellFormed positive a
    have told : graph.NonNegative →
        graph.IsDistance a b ((graph.distancesFrom a)[b]?.getD Weight.noPath) :=
      fun positive => isDistance_of_measured (measured positive)
    have missed : InStep graph { cache with misses := cache.misses + 1 } :=
      ⟨inStep.generation_eq, inStep.right⟩
    have listed : graph.NonNegative → ∀ entry ∈ order.arrange (graph.distancesFrom a).toList,
        graph.IsDistance a entry.1 entry.2 := fun positive entry member =>
      .inl ((measured positive).shortest (ExtTreeMap.mem_toList_iff_getElem?_eq_some.mp
        ((order.perm _).mem_iff.mp member)))
    have sides := missed.rememberSides b listed
    exact ⟨(sides.remember told).fits, .inr (.inr ⟨here, there, _, rfl, told⟩)⟩

end Answers

/-- The topologies and tables that come about when the topology is changed, and the table asked
about it and emptied, in any order. -/
inductive Consulted (weights : EdgeWeights W) (capacity : Nat) :
    Topology W → DistanceCache W → Prop where
  | start : Consulted weights capacity (.empty weights) (ofCapacity capacity)
  | operate {graph : Topology W} {cache : DistanceCache W}
      (consulted : Consulted weights capacity graph cache) (operation : Topology.Operation W) :
      Consulted weights capacity (graph.operate operation) cache
  | ask {graph : Topology W} {cache : DistanceCache W}
      (consulted : Consulted weights capacity graph cache) (order : VisitOrder W)
      (a b : VertexId) : Consulted weights capacity graph (cache.distance order graph a b).2
  | invalidate {graph : Topology W} {cache : DistanceCache W}
      (consulted : Consulted weights capacity graph cache) :
      Consulted weights capacity graph cache.invalidate

variable {weights : EdgeWeights W} {capacity : Nat}

theorem Consulted.fits [IsExact W] (consulted : Consulted weights capacity graph cache) :
    graph.WellFormed ∧ cache.Fits graph := by
  induction consulted with
  | start => exact ⟨Topology.wellFormed_empty weights, fits_ofCapacity _ capacity⟩
  | operate _ operation ih =>
    obtain ⟨wellFormed, fits⟩ := ih
    exact ⟨wellFormed.operate operation,
      fits.follow (Topology.follows_steps (Topology.steps_operate wellFormed operation))⟩
  | ask _ order a b ih =>
    obtain ⟨wellFormed, fits⟩ := ih
    exact ⟨wellFormed, (fits.distance wellFormed order a b).1⟩
  | invalidate _ ih => exact ⟨ih.1, ih.2.invalidate⟩

/-- Host `b` stands between `a` and `c`. It declares a lighter edge to `a` than `a` itself does. -/
def hostsInLine : List (InventoryObject ℚ) :=
  [ { InventoryObject.bare "node" "a" with peers := [⟨⟨"node", "b"⟩, some 3⟩] },
    { InventoryObject.bare "node" "b" with
      peers := [⟨⟨"node", "a"⟩, some 1⟩, ⟨⟨"node", "c"⟩, some 2⟩] } ]

/-- The topology of the hosts. -/
def lineGraph : Topology ℚ := (Topology.empty ⟨1, 2, 4⟩).operate (.addInventory hostsInLine)

/-- A small table that was asked for the distance between `a` and `c`. -/
def lineCache : DistanceCache ℚ := ((ofCapacity 2).distance .ascending lineGraph 0 2).2

/-- The topology after the object of `a` has been removed. -/
def relaxedGraph : Topology ℚ := lineGraph.operate (.removeInventory (hostsInLine.take 1))

theorem consulted_relaxed : Consulted ⟨1, 2, 4⟩ 2 relaxedGraph lineCache :=
  ((Consulted.start.operate (.addInventory hostsInLine)).ask .ascending 0 2).operate
    (.removeInventory (hostsInLine.take 1))

end DistanceCache
end FaultCorrelation
