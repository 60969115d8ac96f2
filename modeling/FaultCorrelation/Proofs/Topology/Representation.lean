import FaultCorrelation.Proofs.Topology.Usable

/-! # The tables of a topology

Four tables stand for one graph, and each operation edits several of them, some while it goes
through the neighbours that it takes away. Whatever is done, the tables agree: keys and vertices
name each other, the adjacency lists repeat the edges, and every edge stands under the pair that it
records, which is the one that its declarer makes with a resource to which the declarer's object
relates. Edges that are handed over keep their pairs.

Numbers are given once. A number below the next one is that of a vertex or of one that is gone, and
a vertex that is gone does not come back under its number.
-/

namespace FaultCorrelation.Topology

open Std

variable {W : Type} {graph next last : Topology W} {id : VertexId}

/-- Whether a number has been given to a vertex that is gone. -/
def IsRetired (graph : Topology W) (id : VertexId) : Prop :=
  id < graph.nextId ∧ id ∉ graph.vertices

/-- Whether a topology has come from another by changes that give new numbers only. -/
structure Renews (next graph : Topology W) : Prop where
  nextId_le : graph.nextId ≤ next.nextId
  mem_of_lt {id : VertexId} : id < graph.nextId → id ∈ next.vertices → id ∈ graph.vertices

theorem Renews.refl (graph : Topology W) : graph.Renews graph :=
  ⟨Nat.le_refl _, fun _ member => member⟩

theorem Renews.trans (second : last.Renews next) (first : next.Renews graph) :
    last.Renews graph where
  nextId_le := Nat.le_trans first.nextId_le second.nextId_le
  mem_of_lt given member :=
    first.mem_of_lt given (second.mem_of_lt (Nat.lt_of_lt_of_le given first.nextId_le) member)

theorem renews_of_subset (nextId : next.nextId = graph.nextId)
    (vertices : ∀ id, id ∈ next.vertices → id ∈ graph.vertices) : next.Renews graph :=
  ⟨Nat.le_of_eq nextId.symm, fun _ => vertices _⟩

theorem renews_step (step : Step graph next) : next.Renews graph := by
  cases step with
  | ensureVertex key =>
    rw [ensureVertex]
    split
    · exact .refl graph
    · refine ⟨Nat.le_succ _, fun given member => ?_⟩
      rcases ExtTreeMap.mem_insert.mp member with same | member
      · exact absurd given (LawfulEqOrd.eq_of_compare same ▸ Nat.lt_irrefl _)
      · exact member
  | updateVertex id kept =>
    exact renews_of_subset rfl fun _ member => ExtTreeMap.mem_modify.mp member
  | link edge here there =>
    rw [link]
    split <;> exact renews_of_subset rfl fun _ member => member
  | unlink pair =>
    rw [unlink]
    split <;> exact renews_of_subset rfl fun _ member => member
  | prune id =>
    rcases WellFormed.prune_cases graph id with same | ⟨_, _, _, dropped⟩
    · rw [same]
      exact .refl graph
    · rw [dropped]
      exact renews_of_subset rfl fun _ member => (ExtTreeMap.mem_erase.mp member).2
  | _ => exact renews_of_subset rfl fun _ member => member

theorem renews_steps (steps : Steps graph next) : next.Renews graph := by
  induction steps with
  | refl => exact .refl graph
  | tail _ step ih => exact (renews_step step).trans ih

theorem IsRetired.renews (retired : graph.IsRetired id) (renews : next.Renews graph) :
    next.IsRetired id :=
  ⟨Nat.lt_of_lt_of_le retired.1 renews.nextId_le, mt (renews.mem_of_lt retired.1) retired.2⟩

theorem WellFormed.mem_or_isRetired (wellFormed : graph.WellFormed) (renews : next.Renews graph)
    (member : id ∈ graph.vertices) : id ∈ next.vertices ∨ next.IsRetired id := by
  by_cases remains : id ∈ next.vertices
  · exact .inl remains
  · exact .inr ⟨Nat.lt_of_lt_of_le (wellFormed.id_lt member) renews.nextId_le, remains⟩

/-- Whether every edge stands under the pair that it records. -/
def Placed (graph : Topology W) : Prop :=
  ∀ (pair : VertexPair) (edge : Edge W), graph.edges[pair]? = some edge → edge.pair = pair

theorem Placed.step (placed : graph.Placed) (step : Step graph next) : next.Placed := by
  cases step with
  | ensureVertex key =>
    intro pair edge found
    exact placed pair edge (edges_ensureVertex graph key ▸ found)
  | @link a b tie here there =>
    rw [link]
    split
    · exact placed
    · intro pair edge found
      simp only [ExtTreeMap.getElem?_insert, LawfulEqOrd.compare_eq_iff_eq] at found
      split at found
      · rename_i same
        rw [← Option.some.inj found, ← same]
      · exact placed pair edge found
  | unlink gone =>
    rw [unlink]
    split
    · intro pair edge found
      simp only [ExtTreeMap.getElem?_erase] at found
      split at found
      · contradiction
      · exact placed pair edge found
    · exact placed
  | @handOver passed tie joined =>
    intro pair edge found
    simp only [handOver, ExtTreeMap.getElem?_modify, LawfulEqOrd.compare_eq_iff_eq] at found
    split at found
    · rename_i same
      obtain ⟨old, before, rfl⟩ := Option.map_eq_some_iff.mp found
      exact same ▸ placed passed old before
    · exact placed pair edge found
  | prune id =>
    intro pair edge found
    exact placed pair edge (edges_prune graph id ▸ found)
  | _ => exact placed

theorem Placed.steps (placed : graph.Placed) (steps : Steps graph next) : next.Placed := by
  induction steps with
  | refl => exact placed
  | tail _ step ih => exact ih.step step

theorem WellFormed.steps_operateAll [Weight W] (wellFormed : graph.WellFormed)
    (operations : List (Operation W)) : Steps graph (graph.operateAll operations) := by
  induction operations generalizing graph with
  | nil => exact .refl
  | cons first rest ih =>
    exact (steps_operate wellFormed first).trans (ih (wellFormed.operate first))

/-- What the tables of a topology are like, and how its edges are tied to the objects. -/
structure Represents (graph : Topology W) : Prop extends graph.WellFormed where
  pair_eq {pair : VertexPair} {edge : Edge W} : graph.edges[pair]? = some edge → edge.pair = pair
  low_lt_high {pair : VertexPair} : pair ∈ graph.edges →
    pair.low < pair.high ∧ pair.low ∈ graph.vertices ∧ pair.high ∈ graph.vertices
  lists_comm {a b : VertexId} : Lists graph.adjacency a b ↔ Lists graph.adjacency b a
  declarer {pair : VertexPair} {edge : Edge W} : graph.edges[pair]? = some edge →
    ∃ owner target : Vertex W, graph.vertices[owner.id]? = some owner ∧
      graph.vertices[target.id]? = some target ∧ pair = .of owner.id target.id ∧
      edge.declaredBy = owner.key ∧ ∃ object ∈ owner.inventory, object.RelatesTo target.key

theorem WellFormed.represents (wellFormed : graph.WellFormed) (placed : graph.Placed)
    {exempt : VertexId → Prop} (declared : graph.Declared exempt) : graph.Represents where
  toWellFormed := wellFormed
  pair_eq found := placed _ _ found
  low_lt_high joined := by
    obtain ⟨different, ends⟩ := wellFormed.ends joined
    exact ⟨Nat.lt_of_le_of_ne (VertexPair.low_le_high _) different, ends⟩
  lists_comm {a b} := by
    rw [wellFormed.lists_iff, wellFormed.lists_iff, VertexPair.of_comm]
  declarer found := by
    obtain ⟨owner, target, here, there, _, pair, named, object, held, relation⟩ :=
      declared.exists_declarer wellFormed found
    exact ⟨owner, target, here, there, pair, named, object, held,
      object.relatesTo_of_firstRelation? relation⟩

/-- Whatever is done to a topology, its tables agree, each edge stands under its own pair, and each
is declared by the object at one of its ends. A vertex stays or its number is retired, and a number
that is retired stays so. -/
theorem tables_agree [Weight W] (weights : EdgeWeights W) (operations : List (Operation W)) :
    let graph := (empty weights).operateAll operations
    graph.Represents ∧ ∀ (later : List (Operation W)) (id : VertexId),
      (id ∈ graph.vertices →
        id ∈ (graph.operateAll later).vertices ∨ (graph.operateAll later).IsRetired id) ∧
      (graph.IsRetired id → (graph.operateAll later).IsRetired id) := by
  intro graph
  have steps : Steps (empty weights) graph :=
    (wellFormed_empty weights).steps_operateAll operations
  have wellFormed : graph.WellFormed := (wellFormed_empty weights).steps steps
  have placed : graph.Placed :=
    Placed.steps (fun pair edge found => by simp [empty] at found) steps
  refine ⟨wellFormed.represents placed (declarer_operateAll weights operations), fun later id => ?_⟩
  have renews := renews_steps (wellFormed.steps_operateAll later)
  exact ⟨wellFormed.mem_or_isRetired renews, fun retired => retired.renews renews⟩

/-- Three hosts are added and taken away, so that numbers 0 to 2 are retired; what is added again
gets new numbers. -/
example :
    let emptied : Topology ℚ :=
      (empty ⟨1, 2, 4⟩).operateAll [.addInventory pairedHosts, .removeInventory pairedHosts]
    let graph := emptied.operateAll [.addInventory (pairedHosts.take 1)]
    emptied.vertices.keys = [] ∧ graph.vertices.keys = [3, 4] ∧
      graph.edges.keys = [.of 3 4] ∧ graph.nextId = 5 := by
  decide +kernel

end FaultCorrelation.Topology
