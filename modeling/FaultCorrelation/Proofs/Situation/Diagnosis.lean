import FaultCorrelation.Proofs.Cluster.Success
import FaultCorrelation.Proofs.Topology.WellFormed
import FaultCorrelation.Situation.Spread

/-! # Diagnoses that cannot fail

A diagnosis asks for distances between the vertices that hold alarms of its situation, and for no
others. These vertices are in the topology, so that there is a text for every situation.
-/

namespace FaultCorrelation

open Std

variable {W : Type} {graph : Topology W}

namespace Spread

theorem mem_of_mem_pairs {α : Type} {items : List α} {pair : α × α}
    (listed : pair ∈ pairs items) : pair.1 ∈ items ∧ pair.2 ∈ items := by
  induction items with
  | nil => simp [pairs] at listed
  | cons first rest ih =>
    rw [pairs, List.mem_append, List.mem_map] at listed
    rcases listed with ⟨other, member, rfl⟩ | listed
    · exact ⟨List.mem_cons_self .., List.mem_cons_of_mem _ member⟩
    · exact ⟨List.mem_cons_of_mem _ (ih listed).1, List.mem_cons_of_mem _ (ih listed).2⟩

theorem mem_verticesOf {alarms : AlarmMap} {id : VertexId} : id ∈ verticesOf graph alarms ↔
    ∃ alarm ∈ alarms.values, graph.vertexOfAlarm? alarm = some id := by
  rw [verticesOf, ExtTreeSet.mem_toList, ExtTreeSet.mem_ofList, List.contains_iff_mem,
    List.mem_filterMap]

end Spread

/-- The vertex that an alarm is found at is in the topology. -/
theorem Topology.WellFormed.mem_of_vertexOfAlarm? (wellFormed : graph.WellFormed) {alarm : Alarm}
    {id : VertexId} (found : graph.vertexOfAlarm? alarm = some id) : id ∈ graph.vertices := by
  simp only [vertexOfAlarm?, Option.bind_eq_bind, Option.bind_eq_some_iff] at found
  obtain ⟨key, _, vertex, placed, found⟩ := found
  obtain ⟨number, _, standing⟩ := Option.bind_eq_some_iff.mp placed
  split at found
  · obtain rfl := Option.some.inj found
    exact wellFormed.id_eq standing ▸ Collections.mem_of_getElem? standing
  · contradiction

variable [Weight W]

/-- Diagnoses are related as their questions are. -/
theorem Situation.related_diagnose {Related : (α : Type) → DistanceM W α → DistanceM W α → Prop}
    (sequential : Sequential Related) (situation : Situation)
    (answers : ∀ a ∈ Spread.verticesOf graph situation.alarms,
      ∀ b ∈ Spread.verticesOf graph situation.alarms,
        Related W (DistanceM.ask graph a b) (DistanceM.ask graph a b)) :
    Related String (situation.diagnose graph) (situation.diagnose graph) := by
  have largest : Related W
      (Spread.largestDistance graph (Spread.verticesOf graph situation.alarms))
      (Spread.largestDistance graph (Spread.verticesOf graph situation.alarms)) := by
    refine sequential.foldlM (fun pair listed _ => ?_) 0
    obtain ⟨first, second⟩ := Spread.mem_of_mem_pairs listed
    exact sequential.bind (answers _ first _ second) fun _ => sequential.pure _
  have measured : Related Spread (Spread.measure graph situation.alarms)
      (Spread.measure graph situation.alarms) := by
    rw [Spread.measure]
    dsimp only
    split
    · exact sequential.bind largest fun _ => sequential.bind (sequential.pure _) fun _ =>
        sequential.pure _
    · exact sequential.bind (sequential.pure none) fun _ => sequential.pure _
  exact sequential.bind measured fun _ => sequential.pure _

/-- There is a diagnostic text for every situation, whatever distances are remembered. -/
theorem Situation.succeeds_diagnose (wellFormed : graph.WellFormed) (situation : Situation) :
    (situation.diagnose graph).Succeeds := by
  have known {id : VertexId} (listed : id ∈ Spread.verticesOf graph situation.alarms) :
      id ∈ graph.vertices := by
    obtain ⟨_, _, found⟩ := Spread.mem_verticesOf.mp listed
    exact wellFormed.mem_of_vertexOfAlarm? found
  exact situation.related_diagnose DistanceM.succeeds_sequential fun _ here _ there =>
    DistanceM.succeeds_ask (known here) (known there)

end FaultCorrelation
