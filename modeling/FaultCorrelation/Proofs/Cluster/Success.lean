import FaultCorrelation.Proofs.Collections
import FaultCorrelation.Proofs.Cluster.Relation

/-! # Clustering that cannot fail

A computation that asks for distances succeeds if all its questions do, and a question succeeds if
both vertices are in the topology. Clustering asks about the vertices of the alarms it is given
only.
-/

namespace FaultCorrelation

namespace DistanceM

variable {W α β : Type} {action : DistanceM W α} {continuation : α → DistanceM W β}

/-- Whether a computation comes to a value, whatever distances are remembered. -/
def Succeeds (action : DistanceM W α) : Prop :=
  ∀ cache, ∃ value, (action.run.run cache).1 = .ok value

theorem succeeds_pure (value : α) : Succeeds (pure value : DistanceM W α) :=
  fun _ => ⟨value, rfl⟩

theorem Succeeds.bind (first : action.Succeeds)
    (next : ∀ value, (continuation value).Succeeds) : (action >>= continuation).Succeeds := by
  intro cache
  obtain ⟨value, came⟩ := first cache
  rw [run_bind, came]
  exact next value _

theorem succeeds_sequential :
    Sequential fun (α : Type) (action _ : DistanceM W α) => action.Succeeds :=
  ⟨succeeds_pure, Succeeds.bind⟩

variable [Weight W] {graph : Topology W}

theorem succeeds_ask {a b : VertexId} (first : a ∈ graph.vertices) (second : b ∈ graph.vertices) :
    (ask graph a b).Succeeds := by
  intro cache
  change ∃ value, (cache.distance .ascending graph a b).1 = .ok value
  rw [DistanceCache.distance, if_neg (not_not.mpr first), if_neg (not_not.mpr second)]
  by_cases same : a = b
  · exact ⟨0, by rw [if_pos same]⟩
  rw [if_neg same]
  dsimp only
  cases (cache.sync graph.generation).entries[VertexPair.of a b]? with
  | some memo => exact ⟨memo.distance, rfl⟩
  | none => exact ⟨_, rfl⟩

end DistanceM

/-- Clustering succeeds if the vertices of all alarms are in the topology. -/
theorem AlarmClusterer.succeeds_clusters {W : Type} [Weight W] (clusterer : AlarmClusterer W)
    {graph : Topology W} {alarms : List LocatedAlarm}
    (located : ∀ alarm ∈ alarms, alarm.vertex ∈ graph.vertices) :
    (clusterer.clusters graph alarms).Succeeds :=
  clusterer.related_clusters DistanceM.succeeds_sequential graph graph fun _ here _ there =>
    DistanceM.succeeds_ask (located _ here) (located _ there)

end FaultCorrelation
