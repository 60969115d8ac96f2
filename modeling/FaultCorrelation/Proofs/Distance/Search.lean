import Mathlib.Data.List.Perm.Subperm
import FaultCorrelation.Distance.ShortestPath
import FaultCorrelation.Proofs.Distance.Walk

/-! # The search for shortest paths

While a search runs, every settled vertex has its shortest distance, tentative distances are those
of walks, and what an edge offers from a settled vertex has been taken up (`Frontier`). Settling the
nearest tentative vertex keeps this. The search has enough steps: each one settles a vertex, and all
vertices it meets have neighbours, but for the source.
-/

namespace FaultCorrelation

open Std
open Weight (IsOrdered)

variable {W : Type} [Weight W]

namespace ShortestPath

section Nearest

variable [IsOrdered W]

/-- The nearer of a candidate and an earlier best. -/
theorem exists_nearer (best : Option (VertexId × W)) (candidate : VertexId × W) : ∃ better,
    nearer best candidate.1 candidate.2 = some better ∧
      (best = some better ∨ better = candidate) ∧
      better.2 ≤ candidate.2 ∧ ∀ entry ∈ best, better.2 ≤ entry.2 := by
  cases best with
  | none =>
    exact ⟨candidate, rfl, .inr rfl, Weight.le_refl _, fun _ absurd => nomatch absurd⟩
  | some known =>
    rw [nearer]
    split
    · rename_i less
      refine ⟨candidate, rfl, .inr rfl, Weight.le_refl _, fun entry same => ?_⟩
      rw [← Option.some.inj same]
      exact Weight.le_of_lt less
    · rename_i notLess
      refine ⟨known, rfl, .inl rfl, Weight.le_of_not_lt notLess, fun entry same => ?_⟩
      rw [← Option.some.inj same]
      exact Weight.le_refl _

/-- The nearest of some candidates and an earlier best. -/
theorem foldl_nearer (candidates : List (VertexId × W)) (best : Option (VertexId × W)) :
    match candidates.foldl (fun best entry => nearer best entry.1 entry.2) best with
    | none => best = none ∧ candidates = []
    | some nearest => (best = some nearest ∨ nearest ∈ candidates) ∧
        (∀ entry ∈ candidates, nearest.2 ≤ entry.2) ∧ ∀ entry ∈ best, nearest.2 ≤ entry.2 := by
  induction candidates generalizing best with
  | nil =>
    cases best with
    | none => exact ⟨rfl, rfl⟩
    | some nearest =>
      refine ⟨.inl rfl, fun _ member => absurd member List.not_mem_nil, fun entry same => ?_⟩
      rw [Option.some.inj same]
      exact Weight.le_refl _
  | cons first rest ih =>
    obtain ⟨better, improved, origin, first_le, best_le⟩ := exists_nearer best first
    have later := ih (some better)
    rw [List.foldl_cons, improved]
    split at later
    · exact absurd later.1 (by simp)
    · rename_i nearest _
      obtain ⟨listed, rest_le, better_le⟩ := later
      have below := better_le better rfl
      refine ⟨?_, fun entry member => ?_, fun entry same => ?_⟩
      · rcases listed with same | member
        · rw [← Option.some.inj same]
          exact origin.imp_right fun equal => List.mem_cons.mpr (.inl equal)
        · exact .inr (List.mem_cons_of_mem _ member)
      · rcases List.mem_cons.mp member with rfl | member
        · exact IsOrdered.le_trans below first_le
        · exact rest_le entry member
      · exact IsOrdered.le_trans below (best_le entry same)

/-- There is a nearest tentative vertex unless there is none at all. -/
theorem nearest?_eq_none {tentative : DistanceMap W} (empty : nearest? tentative = none) :
    ∀ id : VertexId, tentative[id]? = none := by
  have spec := foldl_nearer tentative.toList none
  rw [nearest?, ExtTreeMap.foldl_eq_foldl_toList] at empty
  rw [empty] at spec
  intro id
  by_contra found
  obtain ⟨cost, found⟩ := Option.ne_none_iff_exists'.mp found
  have member := ExtTreeMap.mem_toList_iff_getElem?_eq_some.mpr found
  rw [spec.2] at member
  exact List.not_mem_nil member

theorem nearest?_eq_some {tentative : DistanceMap W} {id : VertexId} {cost : W}
    (nearest : nearest? tentative = some (id, cost)) :
    tentative[id]? = some cost ∧
      ∀ (other : VertexId) (more : W), tentative[other]? = some more → cost ≤ more := by
  have spec := foldl_nearer tentative.toList none
  rw [nearest?, ExtTreeMap.foldl_eq_foldl_toList] at nearest
  rw [nearest] at spec
  obtain ⟨origin, least, _⟩ := spec
  refine ⟨ExtTreeMap.mem_toList_iff_getElem?_eq_some.mp
    (origin.resolve_left fun absurd => nomatch absurd), fun other more found => ?_⟩
  exact least (other, more) (ExtTreeMap.mem_toList_iff_getElem?_eq_some.mpr found)

end Nearest

section Relax

variable {settled tentative : DistanceMap W} {cost : W}

/-- An offer to a neighbour is refused or taken. -/
theorem relax_cases (settled tentative : DistanceMap W) (cost : W) (neighbor : VertexId × W) :
    relax settled cost tentative neighbor = tentative ∧
      (neighbor.1 ∈ settled ∨ ∃ known, tentative[neighbor.1]? = some known ∧
        ¬ cost + neighbor.2 < known) ∨
    neighbor.1 ∉ settled ∧
      relax settled cost tentative neighbor =
        tentative.insert neighbor.1 (cost + neighbor.2) ∧
      ∀ known, tentative[neighbor.1]? = some known → cost + neighbor.2 < known := by
  rw [relax]
  split
  · rename_i known
    exact .inl ⟨rfl, .inl known⟩
  rename_i unsettled
  dsimp only
  split
  · rename_i better
    refine .inr ⟨unsettled, rfl, fun known found => ?_⟩
    rw [improves, found] at better
    exact of_decide_eq_true better
  · rename_i worse
    refine .inl ⟨rfl, .inr ?_⟩
    rw [improves] at worse
    cases found : tentative[neighbor.1]? with
    | none => simp [found] at worse
    | some known => exact ⟨known, rfl, by simpa [found] using worse⟩

variable [IsOrdered W]

/-- What offers to several neighbours do. -/
structure Relaxed (settled : DistanceMap W) (cost : W) (neighbors : List (VertexId × W))
    (tentative after : DistanceMap W) : Prop where
  origin {id : VertexId} {value : W} : after[id]? = some value →
    tentative[id]? = some value ∨
      id ∉ settled ∧ ∃ weight, (id, weight) ∈ neighbors ∧ value = cost + weight
  kept {id : VertexId} {value : W} : tentative[id]? = some value →
    ∃ less, after[id]? = some less ∧ less ≤ value
  taken {id : VertexId} {weight : W} : (id, weight) ∈ neighbors → id ∉ settled →
    ∃ less, after[id]? = some less ∧ less ≤ cost + weight

theorem relaxed_relax (settled : DistanceMap W) (cost : W) (neighbor : VertexId × W)
    (tentative : DistanceMap W) :
    Relaxed settled cost [neighbor] tentative (relax settled cost tentative neighbor) := by
  have inserted (id : VertexId) (value : W) : (tentative.insert neighbor.1 value)[id]? =
      if neighbor.1 = id then some value else tentative[id]? := by
    simp only [ExtTreeMap.getElem?_insert, LawfulEqOrd.compare_eq_iff_eq]
  rcases relax_cases settled tentative cost neighbor with
    ⟨same, refused⟩ | ⟨unsettled, same, better⟩ <;> rw [same]
  · refine ⟨.inl, fun found => ⟨_, found, Weight.le_refl _⟩, fun member unsettled => ?_⟩
    obtain rfl := List.mem_singleton.mp member
    obtain ⟨known, found, notLess⟩ := refused.resolve_left unsettled
    exact ⟨known, found, Weight.le_of_not_lt notLess⟩
  · refine ⟨fun {id value} found => ?_, fun {id value} found => ?_, fun member _ => ?_⟩
    · rw [inserted] at found
      split at found
      · rename_i here
        exact .inr ⟨here ▸ unsettled, neighbor.2, here ▸ List.mem_singleton_self neighbor,
          (Option.some.inj found).symm⟩
      · exact .inl found
    · rw [inserted]
      split
      · rename_i here
        exact ⟨_, rfl, Weight.le_of_lt (better value (here ▸ found))⟩
      · exact ⟨value, found, Weight.le_refl value⟩
    · obtain rfl := List.mem_singleton.mp member
      exact ⟨_, by rw [inserted, if_pos rfl], Weight.le_refl _⟩

theorem Relaxed.append {others neighbors : List (VertexId × W)} {between after : DistanceMap W}
    (first : Relaxed settled cost others tentative between)
    (second : Relaxed settled cost neighbors between after) :
    Relaxed settled cost (others ++ neighbors) tentative after := by
  have lowered {id : VertexId} {value bound : W} (less : value ≤ bound)
      (found : between[id]? = some value) : ∃ less, after[id]? = some less ∧ less ≤ bound := by
    obtain ⟨lesser, there, below⟩ := second.kept found
    exact ⟨lesser, there, IsOrdered.le_trans below less⟩
  refine ⟨fun found => ?_, fun found => ?_, fun member unsettled => ?_⟩
  · rcases second.origin found with before | ⟨unsettled, weight, member, same⟩
    · refine (first.origin before).imp_right fun ⟨unsettled, weight, member, same⟩ => ?_
      exact ⟨unsettled, weight, List.mem_append_left _ member, same⟩
    · exact .inr ⟨unsettled, weight, List.mem_append_right _ member, same⟩
  · obtain ⟨less, there, below⟩ := first.kept found
    exact lowered below there
  · rcases List.mem_append.mp member with member | member
    · obtain ⟨less, there, below⟩ := first.taken member unsettled
      exact lowered below there
    · exact second.taken member unsettled

theorem foldl_relax (settled : DistanceMap W) (cost : W) (neighbors : List (VertexId × W))
    (tentative : DistanceMap W) :
    Relaxed settled cost neighbors tentative (neighbors.foldl (relax settled cost) tentative) := by
  induction neighbors generalizing tentative with
  | nil =>
    exact ⟨.inl, fun found => ⟨_, found, Weight.le_refl _⟩,
      fun member => absurd member List.not_mem_nil⟩
  | cons first rest ih => exact (relaxed_relax settled cost first tentative).append (ih _)

end Relax
end ShortestPath

namespace Topology

open ShortestPath

variable {graph : Topology W} {source : VertexId} {settled tentative : DistanceMap W}

omit [Weight W] in
theorem mem_neighbors (wellFormed : graph.WellFormed) {id other : VertexId} {weight : W} :
    (other, weight) ∈ graph.neighbors id ↔
      ∃ edge, graph.edges[VertexPair.of id other]? = some edge ∧ edge.weight = weight := by
  simp only [neighbors, List.mem_filterMap, Option.map_eq_some_iff, Prod.mk.injEq]
  constructor
  · rintro ⟨_, _, edge, joined, rfl, rfl⟩
    exact ⟨edge, joined, rfl⟩
  · rintro ⟨edge, joined, rfl⟩
    exact ⟨other, wellFormed.mem_adjacent_iff.mpr (Collections.mem_of_getElem? joined), edge,
      joined, rfl, rfl⟩

omit [Weight W] in
/-- The adjacency has an entry for either end of an edge. -/
theorem WellFormed.mem_adjacency (wellFormed : graph.WellFormed) {id other : VertexId}
    (joined : VertexPair.of id other ∈ graph.edges) : other ∈ graph.adjacency := by
  obtain ⟨others, found, _⟩ := wellFormed.lists_iff.mpr (VertexPair.of_comm id other ▸ joined)
  exact Collections.mem_of_getElem? found

/-- What holds while a search runs. -/
structure Frontier (graph : Topology W) (source : VertexId) (settled tentative : DistanceMap W) :
    Prop where
  reached {id : VertexId} {cost : W} : settled[id]? = some cost → graph.Walk source id cost
  offered {id : VertexId} {cost : W} : tentative[id]? = some cost → graph.Walk source id cost
  apart {id : VertexId} : id ∈ settled → id ∉ tentative
  /-- What an edge offers from a settled vertex has been taken up. -/
  closed {id other : VertexId} {cost : W} {edge : Edge W} : settled[id]? = some cost →
    graph.edges[VertexPair.of id other]? = some edge →
      ∃ less, (settled[other]? = some less ∨ tentative[other]? = some less) ∧
        less ≤ cost + edge.weight
  ordered {id other : VertexId} {cost more : W} :
    settled[id]? = some cost → tentative[other]? = some more → cost ≤ more
  started : ∃ cost, (settled[source]? = some cost ∨ tentative[source]? = some cost) ∧ cost ≤ 0

section Ordered

variable [IsOrdered W]

theorem frontier_start (graph : Topology W) (source : VertexId) :
    Frontier graph source ∅ ((∅ : DistanceMap W).insert source 0) where
  reached found := by simp at found
  offered found := by
    simp only [ExtTreeMap.getElem?_insert, LawfulEqOrd.compare_eq_iff_eq] at found
    split at found
    · rename_i same
      rw [← same, ← Option.some.inj found]
      exact .start
    · simp at found
  apart member := by simp at member
  closed found := by simp at found
  ordered found := by simp at found
  started := ⟨0, .inr (by simp), Weight.le_refl 0⟩

omit [Weight W] [IsOrdered W] in
theorem getElem?_settle (settled : DistanceMap W) (id : VertexId) (cost : W) (other : VertexId) :
    (settled.insert id cost)[other]? = if id = other then some cost else settled[other]? := by
  simp only [ExtTreeMap.getElem?_insert, LawfulEqOrd.compare_eq_iff_eq]

/-- What settling a vertex does to the tentative distances. -/
structure Settling (graph : Topology W) (settled tentative : DistanceMap W) (id : VertexId)
    (cost : W) (after : DistanceMap W) : Prop where
  here : tentative[id]? = some cost
  least {other : VertexId} {more : W} : tentative[other]? = some more → cost ≤ more
  origin {other : VertexId} {value : W} : after[other]? = some value →
    id ≠ other ∧ tentative[other]? = some value ∨
      other ∉ settled.insert id cost ∧ ∃ edge,
        graph.edges[VertexPair.of id other]? = some edge ∧ value = cost + edge.weight
  kept {other : VertexId} {value : W} : id ≠ other → tentative[other]? = some value →
    ∃ less, after[other]? = some less ∧ less ≤ value
  taken {other : VertexId} {edge : Edge W} : graph.edges[VertexPair.of id other]? = some edge →
    other ∉ settled.insert id cost → ∃ less, after[other]? = some less ∧ less ≤ cost + edge.weight

/-- The neighbours of the settled vertex may be taken in any order. -/
theorem settling_of_least (wellFormed : graph.WellFormed) (settled : DistanceMap W)
    {id : VertexId} {cost : W} (here : tentative[id]? = some cost)
    (least : ∀ (other : VertexId) (more : W), tentative[other]? = some more → cost ≤ more)
    {neighbors : List (VertexId × W)} (listed : neighbors.Perm (graph.neighbors id)) :
    Settling graph settled tentative id cost
      (neighbors.foldl (relax (settled.insert id cost) cost) (tentative.erase id)) := by
  obtain ⟨origin, kept, taken⟩ :=
    foldl_relax (settled.insert id cost) cost neighbors (tentative.erase id)
  have erased (other : VertexId) : (tentative.erase id)[other]? =
      if id = other then none else tentative[other]? := by
    simp only [ExtTreeMap.getElem?_erase, LawfulEqOrd.compare_eq_iff_eq]
  refine ⟨here, least _ _, fun found => ?_, fun different known => ?_, fun joined unsettled => ?_⟩
  · rcases origin found with before | ⟨unsettled, weight, member, rfl⟩
    · rw [erased] at before
      split at before
      · contradiction
      · rename_i different
        exact .inl ⟨different, before⟩
    · obtain ⟨edge, joined, rfl⟩ := (mem_neighbors wellFormed).mp (listed.mem_iff.mp member)
      exact .inr ⟨unsettled, edge, joined, rfl⟩
  · exact kept (by rw [erased, if_neg different, known])
  · exact taken (listed.mem_iff.mpr ((mem_neighbors wellFormed).mpr ⟨_, joined, rfl⟩)) unsettled

section Settling

variable {id : VertexId} {cost : W} {after : DistanceMap W}
  (frontier : Frontier graph source settled tentative)
  (settling : Settling graph settled tentative id cost after)

include settling in
/-- No tentative distance is below that of the settled vertex. -/
theorem Settling.above (positive : graph.NonNegative) {other : VertexId} {more : W}
    (found : after[other]? = some more) : cost ≤ more := by
  rcases settling.origin found with ⟨_, before⟩ | ⟨_, edge, joined, rfl⟩
  · exact settling.least before
  · exact IsOrdered.le_add (positive.le joined)

include frontier settling

/-- What was known of a vertex is still known, unless something better is. -/
theorem Settling.carried {other : VertexId} {value : W}
    (known : settled[other]? = some value ∨ tentative[other]? = some value) :
    ∃ less, ((settled.insert id cost)[other]? = some less ∨ after[other]? = some less) ∧
      less ≤ value := by
  by_cases same : id = other
  · subst same
    refine ⟨cost, .inl (by rw [getElem?_settle, if_pos rfl]), ?_⟩
    rcases known with known | known
    · exact absurd (Collections.mem_of_getElem? settling.here)
        (frontier.apart (Collections.mem_of_getElem? known))
    · exact settling.least known
  · rcases known with known | known
    · exact ⟨value, .inl (by rw [getElem?_settle, if_neg same, known]), Weight.le_refl value⟩
    · obtain ⟨less, found, below⟩ := settling.kept same known
      exact ⟨less, .inr found, below⟩

/-- What an edge offers from the settled vertex has been taken up. -/
theorem Settling.offers (positive : graph.NonNegative) {other : VertexId} {edge : Edge W}
    (joined : graph.edges[VertexPair.of id other]? = some edge) :
    ∃ less, ((settled.insert id cost)[other]? = some less ∨ after[other]? = some less) ∧
      less ≤ cost + edge.weight := by
  by_cases known : other ∈ settled.insert id cost
  · -- A settled vertex is at least as near as the one being settled.
    obtain ⟨less, there⟩ := Collections.exists_getElem? known
    refine ⟨less, .inl there, IsOrdered.le_trans ?_ (IsOrdered.le_add (positive.le joined))⟩
    rw [getElem?_settle] at there
    split at there
    · rw [Option.some.inj there]
      exact Weight.le_refl _
    · exact frontier.ordered there settling.here
  · obtain ⟨less, there, below⟩ := settling.taken joined known
    exact ⟨less, .inr there, below⟩

theorem Frontier.settle (positive : graph.NonNegative) :
    Frontier graph source (settled.insert id cost) after where
  reached {other value} found := by
    rw [getElem?_settle] at found
    split at found
    · rename_i same
      rw [← same, ← Option.some.inj found]
      exact frontier.offered settling.here
    · exact frontier.reached found
  offered {other value} found := by
    rcases settling.origin found with ⟨_, before⟩ | ⟨_, edge, joined, rfl⟩
    · exact frontier.offered before
    · exact (frontier.offered settling.here).step joined
  apart {other} member present := by
    obtain ⟨value, found⟩ := Collections.exists_getElem? present
    rcases settling.origin found with ⟨different, before⟩ | ⟨unsettled, _⟩
    · refine frontier.apart ?_ (Collections.mem_of_getElem? before)
      exact (ExtTreeMap.mem_insert.mp member).resolve_left (by simpa using different)
    · exact unsettled member
  closed {current other value edge} found joined := by
    rw [getElem?_settle] at found
    split at found
    · rename_i same
      subst same
      rw [← Option.some.inj found]
      exact settling.offers frontier positive joined
    · obtain ⟨less, there, below⟩ := frontier.closed found joined
      obtain ⟨lesser, carried, under⟩ := settling.carried frontier there
      exact ⟨lesser, carried, IsOrdered.le_trans under below⟩
  ordered {current other value more} found there := by
    rw [getElem?_settle] at found
    split at found
    · rw [← Option.some.inj found]
      exact settling.above positive there
    · exact IsOrdered.le_trans (frontier.ordered found settling.here)
        (settling.above positive there)
  started := by
    obtain ⟨value, known, below⟩ := frontier.started
    obtain ⟨less, carried, under⟩ := settling.carried frontier known
    exact ⟨less, carried, IsOrdered.le_trans under below⟩

end Settling

/-- Whether a table has the distances from a source: those of shortest walks, and of all vertices
that walks lead to. -/
structure Measured (graph : Topology W) (source : VertexId) (distances : DistanceMap W) : Prop where
  shortest {id : VertexId} {cost : W} :
    distances[id]? = some cost → graph.IsShortest source id cost
  complete {id : VertexId} {cost : W} : graph.Walk source id cost → id ∈ distances

/-- There is one such table only. -/
theorem Measured.eq {distances others : DistanceMap W} (first : Measured graph source distances)
    (second : Measured graph source others) : distances = others := by
  refine ExtTreeMap.ext_getElem? fun id => ?_
  cases found : distances[id]? with
  | none =>
    refine (ExtTreeMap.getElem?_eq_none fun member => ?_).symm
    obtain ⟨cost, there⟩ := Collections.exists_getElem? member
    obtain ⟨less, known⟩ :=
      Collections.exists_getElem? (first.complete (second.shortest there).walk)
    rw [found] at known
    contradiction
  | some cost =>
    have shortest := first.shortest found
    obtain ⟨less, there⟩ := Collections.exists_getElem? (second.complete shortest.walk)
    have other := second.shortest there
    rw [there, IsOrdered.le_antisymm (shortest.least other.walk) (other.least shortest.walk)]

/-- With nothing tentative any more, the settled distances are those of shortest walks. -/
theorem Frontier.measured (frontier : Frontier graph source settled tentative)
    (done : ∀ id : VertexId, tentative[id]? = none) : Measured graph source settled := by
  have bound {id : VertexId} {cost : W} (walk : graph.Walk source id cost) :
      ∃ less, settled[id]? = some less ∧ less ≤ cost := by
    induction walk with
    | start =>
      obtain ⟨cost, known, below⟩ := frontier.started
      exact ⟨cost, known.resolve_right (by simp [done]), below⟩
    | @step u v cost edge _ joined ih =>
      obtain ⟨less, found, below⟩ := ih
      obtain ⟨lesser, known, under⟩ := frontier.closed found joined
      refine ⟨lesser, known.resolve_right (by simp [done]), IsOrdered.le_trans under ?_⟩
      exact IsOrdered.add_le_add edge.weight below
  refine ⟨fun found => ⟨frontier.reached found, fun walk => ?_⟩, fun walk => ?_⟩
  · obtain ⟨less, known, below⟩ := bound walk
    rw [found] at known
    exact Option.some.inj known ▸ below
  · obtain ⟨less, known, _⟩ := bound walk
    exact Collections.mem_of_getElem? known

/-- The search settles every vertex before its steps run out. -/
theorem Frontier.search (frontier : Frontier graph source settled tentative)
    (wellFormed : graph.WellFormed) (positive : graph.NonNegative) (domain : List VertexId)
    (inside : ∀ id, id ∈ settled ∨ id ∈ tentative → id ∈ domain)
    (spread : ∀ id other, VertexPair.of id other ∈ graph.edges → other ∈ domain) {steps : Nat}
    (enough : domain.length ≤ settled.size + steps) :
    Measured graph source (ShortestPath.search graph.neighbors steps settled tentative) := by
  induction steps generalizing settled tentative with
  | zero =>
    refine frontier.measured fun id => ?_
    by_contra found
    obtain ⟨cost, found⟩ := Option.ne_none_iff_exists'.mp found
    have member := Collections.mem_of_getElem? found
    -- Together with this vertex there would be more vertices than there are.
    have distinct : (id :: settled.keys).Nodup :=
      List.nodup_cons.mpr ⟨fun known => frontier.apart (ExtTreeMap.mem_keys.mp known) member,
        ExtTreeMap.nodup_keys⟩
    have listed : id :: settled.keys ⊆ domain := fun other listed => inside other <|
      (List.mem_cons.mp listed).elim (fun same => .inr (same ▸ member))
        fun known => .inl (ExtTreeMap.mem_keys.mp known)
    have fits := (List.subperm_of_subset distinct listed).length_le
    rw [List.length_cons, ExtTreeMap.length_keys] at fits
    omega
  | succ steps ih =>
    rw [ShortestPath.search]
    split
    · rename_i empty
      exact frontier.measured (nearest?_eq_none empty)
    · rename_i id cost nearest
      obtain ⟨tentatively, least⟩ := nearest?_eq_some nearest
      have settling := settling_of_least wellFormed settled tentatively least (.refl _)
      have here := Collections.mem_of_getElem? tentatively
      refine ih (frontier.settle settling positive) (fun other known => ?_) ?_
      · rcases known with known | known
        · rcases ExtTreeMap.mem_insert.mp known with same | known
          · exact inside other (.inr (LawfulEqOrd.eq_of_compare same ▸ here))
          · exact inside other (.inl known)
        · obtain ⟨value, found⟩ := Collections.exists_getElem? known
          rcases settling.origin found with ⟨_, before⟩ | ⟨_, edge, joined, _⟩
          · exact inside other (.inr (Collections.mem_of_getElem? before))
          · exact spread id other (Collections.mem_of_getElem? joined)
      · have unsettled : id ∉ settled := fun known => frontier.apart known here
        rw [ExtTreeMap.mem_iff_contains] at unsettled
        rw [ExtTreeMap.size_insert, if_neg unsettled]
        omega

/-- The search from a vertex finds the shortest distances. -/
theorem measured_distancesFrom (wellFormed : graph.WellFormed) (positive : graph.NonNegative)
    (source : VertexId) : Measured graph source (graph.distancesFrom source) := by
  refine (frontier_start graph source).search wellFormed positive
    (source :: graph.adjacency.keys) (fun id known => ?_) (fun id other joined => ?_) ?_
  · rcases known with known | known
    · simp at known
    · rcases ExtTreeMap.mem_insert.mp known with same | known
      · exact List.mem_cons.mpr (.inl (LawfulEqOrd.eq_of_compare same).symm)
      · simp at known
  · exact List.mem_cons_of_mem _ (ExtTreeMap.mem_keys.mpr (wellFormed.mem_adjacency joined))
  · simp

end Ordered
end Topology
end FaultCorrelation
