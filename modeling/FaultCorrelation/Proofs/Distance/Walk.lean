import FaultCorrelation.Proofs.Topology.WellFormed
import FaultCorrelation.Proofs.Weight

/-! # Walks and distances

A walk goes along edges and adds up their weights from its source outwards. The distance between two
vertices is the weight of the lightest walk between them, and `noPath` where there is none. It is a
matter of the edges alone, and with exact weights the same both ways.
-/

namespace FaultCorrelation.Topology

open Weight (IsOrdered IsExact)

variable {W : Type} [Weight W] {graph next : Topology W} {a b : VertexId} {cost distance other : W}

/-- A walk from a source, with the sum of its weights. -/
inductive Walk (graph : Topology W) (source : VertexId) : VertexId → W → Prop where
  | start : Walk graph source source 0
  | step {u v : VertexId} {cost : W} {edge : Edge W} (walk : Walk graph source u cost)
      (joined : graph.edges[VertexPair.of u v]? = some edge) :
      Walk graph source v (cost + edge.weight)

/-- Whether a weight is that of a lightest walk. -/
structure IsShortest (graph : Topology W) (a b : VertexId) (cost : W) : Prop where
  walk : graph.Walk a b cost
  least {other : W} : graph.Walk a b other → cost ≤ other

/-- Whether a number is the distance between two vertices. -/
def IsDistance (graph : Topology W) (a b : VertexId) (distance : W) : Prop :=
  graph.IsShortest a b distance ∨ (∀ cost, ¬ graph.Walk a b cost) ∧ distance = Weight.noPath

/-- Whether no edge has a negative weight. -/
def NonNegative (graph : Topology W) : Prop := ∀ edge ∈ graph.edges.values, 0 ≤ edge.weight

instance (graph : Topology W) : Decidable graph.NonNegative :=
  inferInstanceAs (Decidable (∀ edge ∈ graph.edges.values, 0 ≤ edge.weight))

theorem NonNegative.le {pair : VertexPair} {edge : Edge W} (positive : graph.NonNegative)
    (found : graph.edges[pair]? = some edge) : 0 ≤ edge.weight :=
  positive edge (Collections.mem_values.mpr ⟨pair, found⟩)

theorem NonNegative.congr (positive : graph.NonNegative) (same : next.edges = graph.edges) :
    next.NonNegative := by
  rw [NonNegative, same]
  exact positive

theorem Walk.congr (walk : graph.Walk a b cost) (same : next.edges = graph.edges) :
    next.Walk a b cost := by
  induction walk with
  | start => exact .start
  | step _ joined ih => exact .step ih (same ▸ joined)

theorem IsDistance.congr (told : graph.IsDistance a b distance) (same : next.edges = graph.edges) :
    next.IsDistance a b distance :=
  told.imp (fun shortest => ⟨shortest.walk.congr same, fun walk => shortest.least
    (walk.congr same.symm)⟩) fun none =>
      ⟨fun cost walk => none.1 cost (walk.congr same.symm), none.2⟩

section Ordered

variable [IsOrdered W]

theorem Walk.nonNegative (positive : graph.NonNegative) (walk : graph.Walk a b cost) :
    0 ≤ cost := by
  induction walk with
  | start => exact Weight.le_refl 0
  | step _ joined ih => exact IsOrdered.le_trans ih (IsOrdered.le_add (positive.le joined))

theorem isDistance_self (positive : graph.NonNegative) (a : VertexId) :
    graph.IsDistance a a 0 :=
  .inl ⟨.start, fun walk => walk.nonNegative positive⟩

/-- There is one distance only. -/
theorem IsDistance.eq (first : graph.IsDistance a b distance)
    (second : graph.IsDistance a b other) : distance = other := by
  rcases first with first | ⟨none, rfl⟩ <;> rcases second with second | ⟨nowhere, rfl⟩
  · exact IsOrdered.le_antisymm (first.least second.walk) (second.least first.walk)
  · exact absurd first.walk (nowhere _)
  · exact absurd second.walk (none _)
  · rfl

end Ordered

section Exact

variable [IsExact W]

/-- A walk with an edge in front of it. -/
theorem Walk.prepend {u : VertexId} {edge : Edge W}
    (joined : graph.edges[VertexPair.of u a]? = some edge) (walk : graph.Walk a b cost) :
    graph.Walk u b (edge.weight + cost) := by
  induction walk with
  | start =>
    rw [IsExact.add_comm]
    exact .step .start joined
  | step _ onward ih =>
    rw [← IsExact.add_assoc]
    exact .step ih onward

theorem Walk.reverse (walk : graph.Walk a b cost) : graph.Walk b a cost := by
  induction walk with
  | start => exact .start
  | @step u v cost edge _ joined ih =>
    rw [IsExact.add_comm]
    exact ih.prepend (VertexPair.of_comm u v ▸ joined)

theorem IsDistance.symm (told : graph.IsDistance a b distance) :
    graph.IsDistance b a distance :=
  told.imp (fun shortest => ⟨shortest.walk.reverse, fun walk => shortest.least walk.reverse⟩)
    fun none => ⟨fun cost walk => none.1 cost walk.reverse, none.2⟩

/-- The distance of two vertices is that of their pair. -/
theorem isDistance_of : graph.IsDistance (VertexPair.of a b).low (VertexPair.of a b).high distance ↔
    graph.IsDistance a b distance := by
  rcases VertexPair.low_high_of a b with ⟨low, high⟩ | ⟨low, high⟩ <;> rw [low, high]
  exact ⟨IsDistance.symm, IsDistance.symm⟩

end Exact
end FaultCorrelation.Topology
