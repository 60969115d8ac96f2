import FaultCorrelation.Proofs.Cluster.Concurrence
import FaultCorrelation.Proofs.Topology.Renumbering

/-! # Clusters and numbers of vertices

Clusters are clusters of alarms: in which topology the alarms are located does not matter to them as
long as the topologies match and each alarm is located at the vertex of one resource in both.
-/

namespace FaultCorrelation

open Weight (IsExact)

variable {W : Type} [Weight W] {graph next : Topology W}

theorem DistanceM.concurs_ask_of_matches [IsExact W] (here : graph.WellFormed)
    (there : next.WellFormed) (same : graph.Matches next) (positive : graph.NonNegative)
    {a b c d : VertexId} (first : Topology.Corresponds graph next a c)
    (second : Topology.Corresponds graph next b d) :
    Concurs graph next (ask graph a b) (ask next c d) := by
  obtain ⟨distance, told⟩ := exists_isDistance here positive a b
  refine ⟨distance, reports_ask here positive first.mem.1 second.mem.1 told, ?_⟩
  exact reports_ask there (positive.congr same.edges_eq) first.mem.2 second.mem.2
    (same.isDistance here there positive first second told)

namespace LocatedAlarm

/-- The comparison that puts alarms into order before they are clustered. -/
def order : LocatedAlarm → LocatedAlarm → Ordering :=
  compareLex (compareOn fun located => located.alarm.time)
    (compareLex (compareOn fun located => located.alarm.id) (compareOn LocatedAlarm.vertex))

instance : Std.TransCmp order := inferInstanceAs (Std.TransCmp (compareLex _ _))

theorem earlier_eq : earlier = fun a b => (order a b).isLE := rfl

end LocatedAlarm

namespace AlarmClusterer

variable (clusterer : AlarmClusterer W)

/-- Clusters are groups of places in the sorted list of alarms. -/
theorem clusters_eq (graph : Topology W) (alarms : List LocatedAlarm) {n : Nat}
    (size : (Sorting.sortBy LocatedAlarm.earlier alarms).length = n) :
    let point (i : Fin n) := (Sorting.sortBy LocatedAlarm.earlier alarms)[i]
    clusterer.clusters graph alarms = do
      let groups ← clusterer.density.clusters fun i j =>
        clusterer.separation graph (point i) (point j)
      return groups.map fun group => group.map point := by
  subst size
  rfl

/-- Two clusterings of the same alarms, each located in its own topology, come to the same groups of
alarms. -/
theorem reports_of_matches [IsExact W] (here : graph.WellFormed) (there : next.WellFormed)
    (matched : graph.Matches next) (positive : graph.NonNegative)
    {alarms others : List LocatedAlarm}
    (same : (Sorting.sortBy LocatedAlarm.earlier others).map LocatedAlarm.alarm =
      (Sorting.sortBy LocatedAlarm.earlier alarms).map LocatedAlarm.alarm)
    (located : ∀ first ∈ alarms, ∀ second ∈ others, first.alarm = second.alarm →
      Topology.Corresponds graph next first.vertex second.vertex) :
    ∃ clusters twins, (clusterer.clusters graph alarms).Reports graph clusters ∧
      (clusterer.clusters next others).Reports next twins ∧
      twins.map (List.map LocatedAlarm.alarm) = clusters.map (List.map LocatedAlarm.alarm) := by
  generalize size : (Sorting.sortBy LocatedAlarm.earlier alarms).length = n
  have equal : (Sorting.sortBy LocatedAlarm.earlier others).length = n := by
    rw [← size, ← List.length_map LocatedAlarm.alarm, same, List.length_map]
  let point (i : Fin n) := (Sorting.sortBy LocatedAlarm.earlier alarms)[i]
  let twin (i : Fin n) := (Sorting.sortBy LocatedAlarm.earlier others)[i]
  have alarm_eq (i : Fin n) : (twin i).alarm = (point i).alarm := by
    have lookup := congrArg (fun list : List Alarm => list[(i : Nat)]?) same
    simpa [twin, point, size, equal] using lookup
  have corresponds (i : Fin n) :
      Topology.Corresponds graph next (point i).vertex (twin i).vertex :=
    located _ (Sorting.mem_sortBy.mp (List.getElem_mem _)) _
      (Sorting.mem_sortBy.mp (List.getElem_mem _)) (alarm_eq i).symm
  have sequential := DistanceM.concurs_sequential graph next
  have grouped : DistanceM.Concurs graph next
      (clusterer.density.clusters fun i j => clusterer.separation graph (point i) (point j))
      (clusterer.density.clusters fun i j => clusterer.separation next (twin i) (twin j)) :=
    Density.related_clusters sequential fun i j =>
      clusterer.related_separation sequential graph next (alarm_eq i) (alarm_eq j)
        ((corresponds i).eq_iff here there (corresponds j))
        (DistanceM.concurs_ask_of_matches here there matched positive (corresponds i)
          (corresponds j))
  obtain ⟨groups, one, other⟩ := grouped
  refine ⟨groups.map fun group => group.map point, groups.map fun group => group.map twin, ?_, ?_,
    ?_⟩
  · rw [clusterer.clusters_eq graph alarms size]
    exact one.bind (DistanceM.reports_pure graph _)
  · rw [clusterer.clusters_eq next others equal]
    exact other.bind (DistanceM.reports_pure next _)
  · simp only [List.map_map]
    refine List.map_congr_left fun group _ => ?_
    simp only [Function.comp, List.map_map]
    exact List.map_congr_left fun i _ => alarm_eq i

end AlarmClusterer
end FaultCorrelation
