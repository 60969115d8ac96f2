import Mathlib.Data.List.Nodup
import FaultCorrelation.Proofs.Cluster.Cover

/-! # Clusters have nothing in common

A growing cluster takes in points that are in no cluster so far, and labels them as it takes them
in. A point that is labelled so stays labelled so. Hence no point is in two clusters, and neither is
an alarm if the alarms that are given have ids of their own.
-/

namespace FaultCorrelation

open MonadAttach (CanReturn)
open LawfulMonadAttach (canReturn_bind_imp' eq_of_canReturn_pure)

namespace Density

variable {D : Type} [LE D] [DecidableLE D] {m : Type → Type} [Monad m] [LawfulMonad m]
  [MonadAttach m] [LawfulMonadAttach m] {n : Nat} {density : Density D}
  {distance : Fin n → Fin n → m D}

theorem getElem_set_label (labels : Vector Label n) (point other : Fin n) (label : Label) :
    getElem (labels.set point label point.isLt) other other.isLt =
      if point = other then label else getElem labels other other.isLt := by
  simp [Vector.getElem_set, Fin.ext_iff]

/-- Whether a point is labelled as being in a cluster. -/
def IsClustered (labels : Vector Label n) (point : Fin n) : Prop :=
  getElem labels point point.isLt = .clustered

theorem isClustered_set {labels : Vector Label n} {point other : Fin n} :
    IsClustered (labels.set point .clustered point.isLt) other ↔
      point = other ∨ IsClustered labels other := by
  rw [IsClustered, getElem_set_label]
  split
  · rename_i same
    exact iff_of_true rfl (.inl same)
  · rename_i different
    exact (or_iff_right different).symm

/-- What a cluster takes in while it grows from given labels and members. -/
structure Encloses (labels : Vector Label n) (members : List (Fin n)) (after : Vector Label n)
    (taken : List (Fin n)) : Prop where
  kept (point : Fin n) : IsClustered labels point → IsClustered after point
  free (point : Fin n) : point ∈ taken → point ∈ members ∨ ¬ IsClustered labels point
  labelled (point : Fin n) : point ∈ taken → point ∈ members ∨ IsClustered after point

theorem Encloses.refl (labels : Vector Label n) (members : List (Fin n)) :
    Encloses labels members labels members :=
  ⟨fun _ same => same, fun _ member => .inl member, fun _ member => .inl member⟩

/-- Growing on from a point that was in no cluster. -/
theorem Encloses.take {labels after : Vector Label n} {members taken : List (Fin n)}
    {point : Fin n} (outside : ¬ IsClustered labels point)
    (encloses :
      Encloses (labels.set point .clustered point.isLt) (members ++ [point]) after taken) :
    Encloses labels members after taken := by
  have labelled := encloses.kept point (isClustered_set.mpr (.inl rfl))
  refine ⟨fun other clustered => encloses.kept other (isClustered_set.mpr (.inr clustered)),
    fun other member => ?_, fun other member => ?_⟩
  · rcases encloses.free other member with earlier | unlabelled
    · rcases List.mem_append.mp earlier with earlier | same
      · exact .inl earlier
      · exact .inr (List.mem_singleton.mp same ▸ outside)
    · exact .inr fun clustered => unlabelled (isClustered_set.mpr (.inr clustered))
  · rcases encloses.labelled other member with earlier | clustered
    · rcases List.mem_append.mp earlier with earlier | same
      · exact .inl earlier
      · exact .inr (List.mem_singleton.mp same ▸ labelled)
    · exact .inr clustered

theorem encloses_of_canReturn {steps : Nat} {labels after : Vector Label n}
    {members queue taken : List (Fin n)}
    (returned : CanReturn (density.grow distance steps labels members queue) (after, taken)) :
    Encloses labels members after taken := by
  induction steps generalizing labels members queue with
  | zero =>
    rw [grow] at returned
    obtain ⟨rfl, rfl⟩ := Prod.mk.inj (eq_of_canReturn_pure returned)
    exact .refl labels members
  | succ steps ih =>
    cases queue with
    | nil =>
      rw [grow] at returned
      obtain ⟨rfl, rfl⟩ := Prod.mk.inj (eq_of_canReturn_pure returned)
      exact .refl labels members
    | cons point queue =>
      rw [grow] at returned
      split at returned
      · exact ih returned
      · rename_i noise
        exact (ih returned).take (by simp [IsClustered, noise])
      · rename_i unvisited
        obtain ⟨reached, _, returned⟩ := canReturn_bind_imp' returned
        exact (ih returned).take (by simp [IsClustered, unvisited])

/-- Clusters take in what is in no cluster yet, and have nothing in common. -/
theorem apart_of_canReturn_sweep {labels : Vector Label n} {seeds : List (Fin n)}
    {clusters : List (List (Fin n))}
    (returned : CanReturn (density.sweep distance labels seeds) clusters) :
    (∀ cluster ∈ clusters, ∀ point ∈ cluster, ¬ IsClustered labels point) ∧
      clusters.Pairwise List.Disjoint := by
  induction seeds generalizing labels clusters with
  | nil =>
    rw [sweep] at returned
    rw [← eq_of_canReturn_pure returned]
    exact ⟨fun _ member => absurd member List.not_mem_nil, .nil⟩
  | cons seed rest ih =>
    rw [sweep] at returned
    split at returned
    · exact ih returned
    rename_i unvisited
    have unvisited : getElem labels seed seed.isLt = .unvisited := by simpa using unvisited
    have outside : ¬ IsClustered labels seed := by simp [IsClustered, unvisited]
    obtain ⟨neighborhood, _, returned⟩ := canReturn_bind_imp' returned
    split at returned
    · obtain ⟨⟨after, taken⟩, growth, returned⟩ := canReturn_bind_imp' returned
      obtain ⟨others, swept, returned⟩ := canReturn_bind_imp' returned
      rw [← eq_of_canReturn_pure returned]
      have encloses := encloses_of_canReturn growth
      obtain ⟨free, apart⟩ := ih swept
      -- What is labelled by now is not taken in later.
      have later {cluster : List (Fin n)} (listed : cluster ∈ others) {point : Fin n}
          (member : point ∈ cluster) :
          ¬ IsClustered (labels.set seed .clustered seed.isLt) point :=
        fun clustered => free cluster listed point member (encloses.kept point clustered)
      refine ⟨fun cluster listed point member => ?_, List.pairwise_cons.mpr ⟨?_, apart⟩⟩
      · have either : point = seed ∨
            ¬ IsClustered (labels.set seed .clustered seed.isLt) point := by
          rcases List.mem_cons.mp listed with rfl | listed
          · exact (encloses.free point member).imp_left List.mem_singleton.mp
          · exact .inr (later listed member)
        rcases either with rfl | free
        · exact outside
        · exact fun clustered => free (isClustered_set.mpr (.inr clustered))
      · intro cluster listed point member elsewhere
        rcases encloses.labelled point member with same | clustered
        · rw [List.mem_singleton.mp same] at elsewhere
          exact later listed elsewhere (isClustered_set.mpr (.inl rfl))
        · exact free cluster listed point elsewhere clustered
    · obtain ⟨free, apart⟩ := ih returned
      refine ⟨fun cluster listed point member clustered => free cluster listed point member ?_,
        apart⟩
      rw [IsClustered, getElem_set_label, if_neg]
      · exact clustered
      · rintro rfl
        exact outside clustered

/-- No point is in two clusters. -/
theorem apart_of_canReturn {clusters : List (List (Fin n))}
    (returned : CanReturn (density.clusters distance) clusters) :
    clusters.Pairwise List.Disjoint :=
  (apart_of_canReturn_sweep returned).2

end Density

/-- Whether two clusters have no alarm in common. -/
def Cluster.IsApart (first second : Cluster) : Prop :=
  ∀ located ∈ first, ∀ other ∈ second, located.alarm.id ≠ other.alarm.id

instance (first second : Cluster) : Decidable (first.IsApart second) :=
  inferInstanceAs (Decidable (∀ located ∈ first, ∀ other ∈ second,
    located.alarm.id ≠ other.alarm.id))

instance : Std.Symm Cluster.IsApart where
  symm _ _ apart located member other elsewhere same :=
    apart other elsewhere located member same.symm

namespace AlarmClusterer

variable {W : Type} [Weight W] {clusterer : AlarmClusterer W} {graph : Topology W}
  {alarms : List LocatedAlarm} {clusters : List Cluster}

/-- Of alarms with ids of their own none is in two clusters. -/
theorem apart_of_canReturn (distinct : (alarms.map fun located => located.alarm.id).Nodup)
    (returned : CanReturn (clusterer.clusters graph alarms) clusters) :
    clusters.Pairwise Cluster.IsApart := by
  obtain ⟨groups, grouped, returned⟩ := canReturn_bind_imp' returned
  rw [← eq_of_canReturn_pure returned, List.pairwise_map]
  have sorted := ((Sorting.sortBy_perm LocatedAlarm.earlier alarms).map
    fun located => located.alarm.id).nodup_iff.mpr distinct
  refine (Density.apart_of_canReturn grouped).imp fun apart => ?_
  intro located member other elsewhere same
  obtain ⟨i, inFirst, rfl⟩ := List.mem_map.mp member
  obtain ⟨j, inSecond, rfl⟩ := List.mem_map.mp elsewhere
  have position (k : Fin (Sorting.sortBy LocatedAlarm.earlier alarms).toArray.size) :
      k.val < ((Sorting.sortBy LocatedAlarm.earlier alarms).map
        fun located => located.alarm.id).length := by
    simpa using k.isLt
  have equal : List.get _ ⟨i, position i⟩ = List.get _ ⟨j, position j⟩ := by simpa using same
  obtain rfl : i = j := Fin.ext (Fin.mk.inj (sorted.get_inj_iff.mp equal))
  exact apart inFirst inSecond

end AlarmClusterer
end FaultCorrelation
