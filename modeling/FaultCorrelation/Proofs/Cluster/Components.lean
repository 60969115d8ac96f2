import FaultCorrelation.Proofs.Cluster.ByDensity
import FaultCorrelation.Proofs.Cluster.Renumbering

/-! # Clusters as components

Where one alarm is enough for a cluster, every point is a core point, and the clusters are the
components of the alarms under the relation of being linked: at most the radius apart in space and
time. In any case the clusters are those of the set of alarms. The order in which the alarms are
given and what has been asked of the table of distances before make no difference.
-/

namespace FaultCorrelation

open Weight (IsExact)

namespace Density

variable {D : Type} [LE D] [DecidableLE D] {n : Nat} {density : Density D}
  {distance : Fin n → Fin n → D}

theorem isCorePoint_of_single (single : density.minPoints ≤ 1) (point : Fin n) :
    density.IsCorePoint distance point := by
  have near : point ∈ Finset.univ.filter (density.Near distance point) := by simp [Near]
  exact single.trans (Finset.card_pos.mpr ⟨point, near⟩)

theorem chained_iff_of_single (single : density.minPoints ≤ 1) {first second : Fin n} :
    density.Chained distance first second ↔
      Relation.ReflTransGen (fun a b => distance a b ≤ density.epsilon) first second := by
  constructor <;> intro chained
  · induction chained with
    | refl => exact .refl
    | tail _ step ih =>
      rcases step.2.2 with rfl | close
      · exact ih
      · exact ih.tail close
  · exact chained.lift id fun a b close =>
      ⟨isCorePoint_of_single single a, isCorePoint_of_single single b, .inr close⟩

/-- Clusters of core points take in every point once. -/
theorem IsClustering.perm_finRange {clusters : List (List (Fin n))}
    (clustering : density.IsClustering distance clusters) (single : density.minPoints ≤ 1) :
    clusters.flatten.Perm (List.finRange n) := by
  refine (List.perm_ext_iff_of_nodup clustering.distinct (List.nodup_finRange n)).mpr
    fun point => ?_
  exact iff_of_true ((clustering.mem_iff point).mpr (.inl (isCorePoint_of_single single point)))
    (List.mem_finRange point)

theorem IsClustering.nil_notMem {clusters : List (List (Fin n))}
    (clustering : density.IsClustering distance clusters) : [] ∉ clusters := by
  intro listed
  obtain ⟨_, absurd, _⟩ := clustering.seeded [] listed
  contradiction

end Density

namespace AlarmClusterer

variable {W : Type} [Weight W] (clusterer : AlarmClusterer W) (graph : Topology W)
  (alarms : List LocatedAlarm)

omit [Weight W] in
/-- Whether a clusterer finds two alarms as far apart the one way as the other. -/
def IsSymmetric (clusterer : AlarmClusterer W) : Prop :=
  ∀ (first second : Int) (spatial : W),
    clusterer.measure first second spatial = clusterer.measure second first spatial

/-- Whether two alarms are within the radius of each other. -/
def Links (first second : LocatedAlarm) : Prop :=
  ∃ spatial, graph.IsDistance first.vertex second.vertex spatial ∧
    clusterer.measure first.alarm.time second.alarm.time spatial ≤ clusterer.density.epsilon

/-- Whether links between the given alarms lead from one to another. -/
def Connects : LocatedAlarm → LocatedAlarm → Prop :=
  Relation.ReflTransGen fun first second =>
    first ∈ alarms ∧ second ∈ alarms ∧ clusterer.Links graph first second

/-- Whether clusters are the components of the given alarms under the links between them. -/
structure IsComponents (clusters : List Cluster) : Prop where
  perm : clusters.flatten.Perm alarms
  nonempty : [] ∉ clusters
  together_iff {first second : LocatedAlarm} : first ∈ alarms → second ∈ alarms →
    ((∃ cluster ∈ clusters, first ∈ cluster ∧ second ∈ cluster) ↔
      clusterer.Connects graph alarms first second)

/-- The time between two alarms does not depend on which of them comes first. -/
theorem isSymmetric_ofSettings {settings : Settings} {clusterer : AlarmClusterer Float}
    (accepted : ofSettings settings = .ok clusterer) : clusterer.IsSymmetric := by
  rw [ofSettings] at accepted
  cases density : Density.checked settings.epsilon settings.minPoints with
  | error cause => simp [density, bind, Except.bind] at accepted
  | ok density =>
    cases measure : SpaceTime.checked settings.alpha settings.beta with
    | error cause => simp [*, bind, Except.bind] at accepted
    | ok measure =>
      simp only [*, bind, Except.bind, pure, Except.pure, Except.ok.injEq] at accepted
      subst accepted
      intro first second spatial
      simp only [SpaceTime.between, SpaceTime.seconds, Word64.natAbs_sub_comm first second]

/-- The given order of alarms with ids of their own does not matter. -/
theorem clusters_congr {alarms others : List LocatedAlarm} (permuted : alarms.Perm others)
    (distinct : (alarms.map fun located => located.alarm.id).Nodup) :
    clusterer.clusters graph others = clusterer.clusters graph alarms := by
  have sorted : Sorting.sortBy LocatedAlarm.earlier alarms =
      Sorting.sortBy LocatedAlarm.earlier others := by
    rw [LocatedAlarm.earlier_eq]
    refine Sorting.sortBy_eq_of_perm permuted fun first one second two before after => ?_
    have equal := Std.OrientedCmp.isLE_antisymm before after
    rw [LocatedAlarm.order, compareLex_eq_eq, compareLex_eq_eq] at equal
    exact List.inj_on_of_nodup_map distinct one two
      (Std.LawfulEqOrd.eq_of_compare equal.2.1)
  rw [clusterer.clusters_eq graph others rfl,
    clusterer.clusters_eq graph alarms (congrArg List.length sorted)]
  simp only [sorted]

section Distances

variable [IsExact W] {graph}

theorem exists_reports_separation (wellFormed : graph.WellFormed) (positive : graph.NonNegative)
    {first second : LocatedAlarm} (here : first.vertex ∈ graph.vertices)
    (there : second.vertex ∈ graph.vertices) :
    ∃ distance, (clusterer.separation graph first second).Reports graph distance ∧
      (distance ≤ clusterer.density.epsilon ↔ clusterer.Links graph first second) := by
  obtain ⟨spatial, told⟩ :=
    DistanceM.exists_isDistance wellFormed positive first.vertex second.vertex
  have answered : (clusterer.separation graph first second).Reports graph
      (clusterer.measure first.alarm.time second.alarm.time spatial) := by
    rw [separation]
    split
    · rename_i same
      obtain rfl : spatial = 0 :=
        told.eq (same ▸ Topology.isDistance_self positive first.vertex)
      exact (DistanceM.reports_pure graph 0).bind (DistanceM.reports_pure graph _)
    · exact (DistanceM.reports_ask wellFormed positive here there told).bind
        (DistanceM.reports_pure graph _)
  refine ⟨_, answered, fun close => ⟨spatial, told, close⟩, ?_⟩
  rintro ⟨other, again, close⟩
  rwa [told.eq again]

variable {clusterer}

theorem Links.symm (symmetric : clusterer.IsSymmetric) {first second : LocatedAlarm}
    (links : clusterer.Links graph first second) : clusterer.Links graph second first := by
  obtain ⟨spatial, told, close⟩ := links
  exact ⟨spatial, told.symm, symmetric _ _ spatial ▸ close⟩

end Distances

variable {clusterer graph alarms} {n : Nat} {point : Fin n → LocatedAlarm}
  {distance : Fin n → Fin n → W}

/-- Links lead from one alarm to another as small distances do from place to place. -/
theorem connects_iff (injective : point.Injective)
    (given : ∀ located, located ∈ alarms ↔ ∃ i, point i = located)
    (close_iff : ∀ i j, distance i j ≤ clusterer.density.epsilon ↔
      clusterer.Links graph (point i) (point j)) {first second : Fin n} :
    clusterer.Connects graph alarms (point first) (point second) ↔
      Relation.ReflTransGen (fun i j => distance i j ≤ clusterer.density.epsilon) first second := by
  have member (i : Fin n) : point i ∈ alarms := (given _).mpr ⟨i, rfl⟩
  constructor <;> intro path
  · have reached {last : LocatedAlarm} (path : clusterer.Connects graph alarms (point first) last) :
        ∃ i, point i = last ∧
          Relation.ReflTransGen (fun i j => distance i j ≤ clusterer.density.epsilon) first i := by
      induction path with
      | refl => exact ⟨first, rfl, .refl⟩
      | @tail _ next _ step ih =>
        obtain ⟨i, rfl, before⟩ := ih
        obtain ⟨j, rfl⟩ := (given next).mp step.2.1
        exact ⟨j, rfl, before.tail ((close_iff i j).mpr step.2.2)⟩
    obtain ⟨i, same, before⟩ := reached path
    exact injective same ▸ before
  · exact path.lift point fun i j close => ⟨member i, member j, (close_iff i j).mp close⟩

/-- Groups of places that density calls for are components of the alarms at those places. -/
theorem isComponents_of_isClustering (single : clusterer.density.minPoints ≤ 1)
    (injective : point.Injective) (listed : ((List.finRange n).map point).Perm alarms)
    (close_iff : ∀ i j, distance i j ≤ clusterer.density.epsilon ↔
      clusterer.Links graph (point i) (point j)) {groups : List (List (Fin n))}
    (clustering : clusterer.density.IsClustering distance groups) :
    clusterer.IsComponents graph alarms (groups.map fun group => group.map point) where
  perm := by
    rw [← List.map_flatten]
    exact ((clustering.perm_finRange single).map point).trans listed
  nonempty := by
    intro empty
    obtain ⟨group, member, none⟩ := List.mem_map.mp empty
    exact clustering.nil_notMem (List.map_eq_nil_iff.mp none ▸ member)
  together_iff := by
    have given (located : LocatedAlarm) : located ∈ alarms ↔ ∃ i, point i = located := by
      simp [← listed.mem_iff]
    intro first second one two
    obtain ⟨i, rfl⟩ := (given first).mp one
    obtain ⟨j, rfl⟩ := (given second).mp two
    rw [connects_iff injective given close_iff, ← Density.chained_iff_of_single single,
      ← clustering.together_iff (Density.isCorePoint_of_single single i)
        (Density.isCorePoint_of_single single j)]
    simp [injective.eq_iff]

variable [IsExact W]

theorem exists_isComponents (wellFormed : graph.WellFormed) (positive : graph.NonNegative)
    (single : clusterer.density.minPoints ≤ 1) (symmetric : clusterer.IsSymmetric)
    (distinct : (alarms.map fun located => located.alarm.id).Nodup)
    (placed : ∀ located ∈ alarms, located.vertex ∈ graph.vertices) :
    ∃ clusters, (clusterer.clusters graph alarms).Reports graph clusters ∧
      clusterer.IsComponents graph alarms clusters := by
  let sorted := Sorting.sortBy LocatedAlarm.earlier alarms
  let point (i : Fin sorted.length) := sorted[i]
  have permuted : sorted.Perm alarms := Sorting.sortBy_perm _ alarms
  have listed : ((List.finRange sorted.length).map point).Perm alarms :=
    (List.Perm.of_eq (List.map_get_finRange sorted)).trans permuted
  have injective : point.Injective :=
    List.nodup_iff_injective_get.mp (permuted.nodup_iff.mpr distinct.of_map)
  have known (i : Fin sorted.length) : (point i).vertex ∈ graph.vertices :=
    placed _ (permuted.mem_iff.mp (List.getElem_mem i.isLt))
  choose distance reports close_iff using fun i j =>
    clusterer.exists_reports_separation wellFormed positive (known i) (known j)
  obtain ⟨groups, answers, clustering⟩ := clusterer.density.clusters_by_density reports
    fun i j close => (close_iff j i).mpr (((close_iff i j).mp close).symm symmetric)
  refine ⟨_, ?_, isComponents_of_isClustering single injective listed close_iff clustering⟩
  rw [clusterer.clusters_eq graph alarms rfl]
  exact DistanceM.Reports.bind answers (DistanceM.reports_pure graph _)

variable (clusterer)

/-- Whatever tables are asked, and in whatever order the alarms are given, the clusters are the
same. Where one alarm is enough for a cluster, they are the components. -/
theorem clusters_eq_components {weights others : EdgeWeights W} {capacity room : Nat}
    {cache twin : DistanceCache W}
    (consulted : DistanceCache.Consulted weights capacity graph cache)
    (again : DistanceCache.Consulted others room graph twin) (positive : graph.NonNegative)
    {permuted : List LocatedAlarm} (same : alarms.Perm permuted)
    (distinct : (alarms.map fun located => located.alarm.id).Nodup)
    (placed : ∀ located ∈ alarms, located.vertex ∈ graph.vertices) :
    ∃ clusters, ((clusterer.clusters graph alarms).run.run cache).1 = .ok clusters ∧
      ((clusterer.clusters graph permuted).run.run twin).1 = .ok clusters ∧
      (clusterer.density.minPoints = 1 → clusterer.IsSymmetric →
        clusterer.IsComponents graph alarms clusters) := by
  obtain ⟨wellFormed, fits⟩ := consulted.fits
  obtain ⟨_, fitting⟩ := again.fits
  obtain ⟨clusters, reports, _⟩ :=
    clusterer.clusters_concur wellFormed wellFormed rfl positive placed placed
  refine ⟨clusters, (reports cache fits).1, ?_, fun single symmetric => ?_⟩
  · rw [clusterer.clusters_congr graph same distinct]
    exact (reports twin fitting).1
  · obtain ⟨components, told, isComponents⟩ :=
      exists_isComponents wellFormed positive single.le symmetric distinct placed
    have equal := (told cache fits).1.symm.trans (reports cache fits).1
    exact Except.ok.inj equal ▸ isComponents

/-- A clusterer by the sum of the time and the distance between alarms. -/
def summing : AlarmClusterer ℚ where
  density := ⟨3, 1⟩
  measure first second spatial := (first - second).natAbs + spatial

/-- Alarms at each of the three hosts, and one a long time later. -/
def alarmsInLine : List LocatedAlarm :=
  [⟨0, ⟨"x", 0, .major, none, none⟩⟩, ⟨2, ⟨"y", 1, .major, none, none⟩⟩,
    ⟨1, ⟨"z", 1, .major, none, none⟩⟩, ⟨0, ⟨"far", 100, .major, none, none⟩⟩]

/-- A larger table that has been asked about the present distances only. -/
def recentCache : DistanceCache ℚ :=
  ((DistanceCache.ofCapacity 8).distance .ascending DistanceCache.relaxedGraph 2 1).2

theorem consulted_recent :
    DistanceCache.Consulted ⟨1, 2, 4⟩ 8 DistanceCache.relaxedGraph recentCache :=
  ((DistanceCache.Consulted.start.operate (.addInventory DistanceCache.hostsInLine)).operate
    (.removeInventory (DistanceCache.hostsInLine.take 1))).ask .ascending 2 1

/-- The alarms at the ends of the line are linked by way of the one between them, also for the small
table with its outdated entries. -/
theorem clusters_eq_components_linked :
    DistanceCache.relaxedGraph.NonNegative ∧
      (alarmsInLine.map fun located => located.alarm.id).Nodup ∧
      (∀ located ∈ alarmsInLine, located.vertex ∈ DistanceCache.relaxedGraph.vertices) ∧
      ∃ clusters, clusters.map (List.map fun located => located.alarm.id) =
          [["x", "z", "y"], ["far"]] ∧
        ((summing.clusters DistanceCache.relaxedGraph alarmsInLine).run.run
          DistanceCache.lineCache).1 = .ok clusters ∧
        summing.IsComponents DistanceCache.relaxedGraph alarmsInLine clusters := by
  have positive : DistanceCache.relaxedGraph.NonNegative := by decide +kernel
  have distinct : (alarmsInLine.map fun located => located.alarm.id).Nodup := by decide +kernel
  have placed : ∀ located ∈ alarmsInLine,
      located.vertex ∈ DistanceCache.relaxedGraph.vertices := by decide +kernel
  have symmetric : summing.IsSymmetric := fun first second spatial => by
    simp only [summing, ← Int.natAbs_neg (first - second), Int.neg_sub]
  obtain ⟨clusters, ran, again, components⟩ := summing.clusters_eq_components
    DistanceCache.consulted_relaxed consulted_recent positive
    alarmsInLine.reverse_perm.symm distinct placed
  refine ⟨positive, distinct, placed, clusters, ?_, ran, components rfl symmetric⟩
  have found : ((summing.clusters DistanceCache.relaxedGraph alarmsInLine.reverse).run.run
      recentCache).1.toOption.map (List.map (List.map fun located => located.alarm.id)) =
        some [["x", "z", "y"], ["far"]] := by decide +kernel
  rw [again] at found
  exact Option.some.inj found

end AlarmClusterer
end FaultCorrelation
