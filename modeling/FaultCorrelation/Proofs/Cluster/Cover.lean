import FaultCorrelation.Cluster.Alarms

/-! # What clusters cover

A growing cluster takes in every point that it labels. Where a single point is enough for a core
point there is no noise, so that every point is in a cluster. The distance may be asked for in any
lawful monad; what is said is about all that a run may return.
-/

namespace FaultCorrelation

open MonadAttach (CanReturn)
open LawfulMonadAttach (canReturn_bind_imp' eq_of_canReturn_pure)

namespace Density

variable {D : Type} [LE D] [DecidableLE D] {m : Type → Type} [Monad m] [LawfulMonad m]
  [MonadAttach m] [LawfulMonadAttach m] {n : Nat} {density : Density D}
  {distance : Fin n → Fin n → m D}

theorem mem_of_canReturn_gather {center : Fin n} {points reached : List (Fin n)}
    (member : center ∈ points)
    (returned : CanReturn (density.gather distance center points) reached) : center ∈ reached := by
  induction points generalizing reached with
  | nil => contradiction
  | cons first rest ih =>
    rw [gather] at returned
    split at returned
    · rename_i same
      obtain ⟨others, _, returned⟩ := canReturn_bind_imp' returned
      rw [← eq_of_canReturn_pure returned, same]
      exact List.mem_cons_self ..
    · rename_i different
      have later := (List.mem_cons.mp member).resolve_left (Ne.symm different)
      obtain ⟨d, _, returned⟩ := canReturn_bind_imp' returned
      obtain ⟨others, gathered, returned⟩ := canReturn_bind_imp' returned
      rw [← eq_of_canReturn_pure returned]
      split
      · exact List.mem_cons_of_mem _ (ih later gathered)
      · exact ih later gathered

/-- Where one point is enough, every point is a core point. -/
theorem isCore_of_canReturn_region (single : density.minPoints ≤ 1) {center : Fin n}
    {reached : List (Fin n)} (returned : CanReturn (density.region distance center) reached) :
    density.isCore reached := by
  have member := mem_of_canReturn_gather (List.mem_finRange center) returned
  exact decide_eq_true (Nat.le_trans single (List.length_pos_of_mem member))

/-- What a cluster has taken in when it has grown from given labels and members. -/
structure Grown (labels : Vector Label n) (members : List (Fin n)) (after : Vector Label n)
    (taken : List (Fin n)) : Prop where
  kept : members ⊆ taken
  labelled (point : Fin n) : after[point.val]? ≠ labels[point.val]? → point ∈ taken

theorem Grown.refl (labels : Vector Label n) (members : List (Fin n)) :
    Grown labels members labels members :=
  ⟨fun _ member => member, fun _ changed => absurd rfl changed⟩

/-- Growing on from a point that is taken in. -/
theorem Grown.take {labels after : Vector Label n} {members taken : List (Fin n)} {point : Fin n}
    {label : Label}
    (grown : Grown (labels.set point label point.isLt) (members ++ [point]) after taken) :
    Grown labels members after taken := by
  refine ⟨fun other member => grown.kept (List.mem_append_left _ member), fun other changed => ?_⟩
  by_cases same : point = other
  · exact same ▸ grown.kept (List.mem_append_right _ (List.mem_singleton_self point))
  · apply grown.labelled other
    rwa [Vector.getElem?_set_ne _ (Fin.val_ne_of_ne same)]

theorem grown_of_canReturn {steps : Nat} {labels after : Vector Label n}
    {members queue taken : List (Fin n)}
    (returned : CanReturn (density.grow distance steps labels members queue) (after, taken)) :
    Grown labels members after taken := by
  induction steps generalizing labels members queue with
  | zero =>
    rw [grow] at returned
    obtain ⟨rfl, rfl⟩ := Prod.mk.inj (eq_of_canReturn_pure returned)
    exact .refl labels members
  | succ steps ih =>
    cases queue with
    | nil =>
      rw [grow] at returned
      obtain ⟨rfl, rfl⟩ := Prod.mk.inj (eq_of_canReturn_pure returned)
      exact .refl labels members
    | cons point queue =>
      rw [grow] at returned
      split at returned
      · exact ih returned
      · exact (ih returned).take
      · obtain ⟨reached, _, returned⟩ := canReturn_bind_imp' returned
        exact (ih returned).take

/-- Where one point is enough, every point that was not visited ends up in a cluster. -/
theorem covers_of_canReturn_sweep (single : density.minPoints ≤ 1) {labels : Vector Label n}
    {seeds : List (Fin n)} {clusters : List (List (Fin n))}
    (returned : CanReturn (density.sweep distance labels seeds) clusters) :
    ∀ point ∈ seeds, labels[point] = .unvisited → ∃ cluster ∈ clusters, point ∈ cluster := by
  induction seeds generalizing labels clusters with
  | nil => exact fun _ member => absurd member List.not_mem_nil
  | cons seed rest ih =>
    intro point member unvisited
    rw [sweep] at returned
    split at returned
    · rename_i visited
      rcases List.mem_cons.mp member with rfl | member
      · simp [unvisited] at visited
      · exact ih returned point member unvisited
    · obtain ⟨neighborhood, region, returned⟩ := canReturn_bind_imp' returned
      rw [if_pos (isCore_of_canReturn_region single region)] at returned
      obtain ⟨⟨after, taken⟩, growth, returned⟩ := canReturn_bind_imp' returned
      obtain ⟨others, swept, returned⟩ := canReturn_bind_imp' returned
      rw [← eq_of_canReturn_pure returned]
      have grown := grown_of_canReturn growth
      by_cases same : point = seed
      · exact ⟨taken, List.mem_cons_self .., grown.kept (same ▸ List.mem_singleton_self seed)⟩
      have before : (labels.set seed .clustered)[point.val]? = some .unvisited := by
        rw [Vector.getElem?_set_ne _ (Fin.val_ne_of_ne (Ne.symm same)),
          Vector.getElem?_eq_getElem point.isLt]
        exact congrArg some unvisited
      by_cases untouched : after[point] = .unvisited
      · obtain ⟨cluster, listed, inside⟩ :=
          ih swept point ((List.mem_cons.mp member).resolve_left same) untouched
        exact ⟨cluster, List.mem_cons_of_mem _ listed, inside⟩
      · refine ⟨taken, List.mem_cons_self .., grown.labelled point ?_⟩
        rw [before, Vector.getElem?_eq_getElem point.isLt]
        exact fun kept => untouched (Option.some.inj kept)

theorem covers_of_canReturn (single : density.minPoints ≤ 1) {clusters : List (List (Fin n))}
    (returned : CanReturn (density.clusters distance) clusters) (point : Fin n) :
    ∃ cluster ∈ clusters, point ∈ cluster :=
  covers_of_canReturn_sweep single returned point (List.mem_finRange point) (by simp)

end Density

namespace AlarmClusterer

variable {W : Type} [Weight W] {clusterer : AlarmClusterer W} {graph : Topology W}
  {alarms : List LocatedAlarm} {clusters : List Cluster}

/-- Clusters are made of the alarms that are given. -/
theorem mem_of_canReturn (returned : CanReturn (clusterer.clusters graph alarms) clusters) :
    ∀ cluster ∈ clusters, ∀ located ∈ cluster, located ∈ alarms := by
  intro cluster member located present
  obtain ⟨groups, _, returned⟩ := canReturn_bind_imp' returned
  rw [← eq_of_canReturn_pure returned] at member
  obtain ⟨group, _, rfl⟩ := List.mem_map.mp member
  obtain ⟨i, _, rfl⟩ := List.mem_map.mp present
  exact Sorting.mem_sortBy.mp (List.mem_toArray.mp (Array.getElem_mem i.isLt))

/-- Where one alarm is enough, every alarm that is given is in a cluster. -/
theorem covers_of_canReturn (single : clusterer.density.minPoints ≤ 1)
    (returned : CanReturn (clusterer.clusters graph alarms) clusters) :
    ∀ located ∈ alarms, ∃ cluster ∈ clusters, located ∈ cluster := by
  intro located given
  obtain ⟨groups, grouped, returned⟩ := canReturn_bind_imp' returned
  rw [← eq_of_canReturn_pure returned]
  have listed : located ∈ (Sorting.sortBy LocatedAlarm.earlier alarms).toArray :=
    List.mem_toArray.mpr (Sorting.mem_sortBy.mpr given)
  obtain ⟨i, bound, rfl⟩ := Array.mem_iff_getElem.mp listed
  obtain ⟨group, member, inside⟩ := Density.covers_of_canReturn single grouped ⟨i, bound⟩
  exact ⟨_, List.mem_map_of_mem member, List.mem_map_of_mem inside⟩

end AlarmClusterer

/-- A run of the table of distances that succeeds returns its answer. -/
theorem DistanceM.canReturn_of_run {W α : Type} {asked : DistanceM W α} {cache : DistanceCache W}
    {answer : α} (ran : (asked.run.run cache).1 = .ok answer) : CanReturn asked answer :=
  ⟨cache, (asked.run.run cache).2, Prod.ext ran rfl⟩

end FaultCorrelation
