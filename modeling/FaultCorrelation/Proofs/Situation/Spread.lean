import FaultCorrelation.Proofs.Cluster.Renumbering

/-! # What a diagnostic text depends on

The largest distance is looked for between vertices in the order of their numbers. It is a least
upper bound, so that it does not depend on that order; and topologies that are alike tell the same
of any situation.
-/

namespace FaultCorrelation

open Std
open Weight (IsExact IsOrdered)

variable {W : Type} [Weight W] {graph next : Topology W}

namespace Spread

theorem mem_pairs {α : Type} {items : List α} {a b : α} (different : a ≠ b) (here : a ∈ items)
    (there : b ∈ items) : (a, b) ∈ pairs items ∨ (b, a) ∈ pairs items := by
  induction items with
  | nil => contradiction
  | cons first rest ih =>
    simp only [pairs, List.mem_append, List.mem_map, Prod.mk.injEq]
    rcases List.mem_cons.mp here with rfl | early <;> rcases List.mem_cons.mp there with rfl | late
    · contradiction
    · exact .inl (.inl ⟨b, late, rfl, rfl⟩)
    · exact .inr (.inl ⟨a, early, rfl, rfl⟩)
    · exact (ih early late).imp .inr .inr

/-- Whether a number is the largest distance between two of the vertices. -/
structure IsLargest (graph : Topology W) (vertices : List VertexId) (largest : W) : Prop where
  nonNegative : 0 ≤ largest
  above {a b : VertexId} {distance : W} : a ∈ vertices → b ∈ vertices →
    graph.IsDistance a b distance → distance ≤ largest
  attained : largest = 0 ∨ ∃ a ∈ vertices, ∃ b ∈ vertices, graph.IsDistance a b largest

variable [IsExact W]

/-- What the search for the largest distance between pairs comes to, from what was found before. -/
theorem reports_foldlM (wellFormed : graph.WellFormed) (positive : graph.NonNegative)
    {pairs : List (VertexId × VertexId)}
    (known : ∀ pair ∈ pairs, pair.1 ∈ graph.vertices ∧ pair.2 ∈ graph.vertices) (before : W) :
    ∃ largest, DistanceM.Reports graph (pairs.foldlM (fun largest pair => do
        let distance ← DistanceM.ask graph pair.1 pair.2
        return Weight.larger largest distance) before) largest ∧
      before ≤ largest ∧
      (∀ pair ∈ pairs, ∀ distance, graph.IsDistance pair.1 pair.2 distance → distance ≤ largest) ∧
      (largest = before ∨ ∃ pair ∈ pairs, graph.IsDistance pair.1 pair.2 largest) := by
  induction pairs generalizing before with
  | nil => exact ⟨before, DistanceM.reports_pure graph before, Weight.le_refl before, by simp,
      .inl rfl⟩
  | cons first rest ih =>
    obtain ⟨distance, told⟩ := DistanceM.exists_isDistance wellFormed positive first.1 first.2
    obtain ⟨here, there⟩ := known first (List.mem_cons_self ..)
    obtain ⟨largest, found, least, above, attained⟩ :=
      ih (fun pair member => known pair (List.mem_cons_of_mem _ member))
        (Weight.larger before distance)
    refine ⟨largest, ?_, IsOrdered.le_trans (Weight.le_larger_left ..) least, ?_, ?_⟩
    · have asked : DistanceM.Reports graph (do
          let distance ← DistanceM.ask graph first.1 first.2
          return Weight.larger before distance) (Weight.larger before distance) :=
        (DistanceM.reports_ask wellFormed positive here there told).bind
          (DistanceM.reports_pure graph _)
      rw [List.foldlM_cons]
      exact asked.bind found
    · intro pair member other far
      rcases List.mem_cons.mp member with rfl | member
      · rw [far.eq told]
        exact IsOrdered.le_trans (Weight.le_larger_right ..) least
      · exact above pair member other far
    · rcases attained with rfl | ⟨pair, member, far⟩
      · rcases Weight.larger_eq before distance with same | same <;> rw [same]
        · exact .inl rfl
        · exact .inr ⟨first, List.mem_cons_self .., told⟩
      · exact .inr ⟨pair, List.mem_cons_of_mem _ member, far⟩

theorem reports_largestDistance (wellFormed : graph.WellFormed) (positive : graph.NonNegative)
    {vertices : List VertexId} (known : ∀ id ∈ vertices, id ∈ graph.vertices) :
    ∃ largest, (largestDistance graph vertices).Reports graph largest ∧
      IsLargest graph vertices largest := by
  obtain ⟨largest, found, least, above, attained⟩ := reports_foldlM wellFormed positive
    (fun pair listed => (mem_of_mem_pairs listed).imp (known _) (known _)) (0 : W)
  refine ⟨largest, found, least, fun {a b distance} here there told => ?_, ?_⟩
  · by_cases same : a = b
    · subst same
      rw [told.eq (Topology.isDistance_self positive a)]
      exact least
    · rcases mem_pairs same here there with listed | listed
      · exact above (a, b) listed distance told
      · exact above (b, a) listed distance told.symm
  · exact attained.imp_right fun ⟨pair, listed, far⟩ =>
      ⟨pair.1, (mem_of_mem_pairs listed).1, pair.2, (mem_of_mem_pairs listed).2, far⟩

omit [Weight W] [IsExact W] in
/-- The alarms of a situation are at vertices of the same resources. -/
theorem exists_corresponding (alike : Topology.Alike graph next) {alarms : AlarmMap}
    {id : VertexId} (member : id ∈ verticesOf graph alarms) :
    ∃ other ∈ verticesOf next alarms, Topology.Corresponds graph next id other := by
  obtain ⟨alarm, shown, found⟩ := mem_verticesOf.mp member
  have either := alike.located alarm
  rw [found] at either
  generalize again : next.vertexOfAlarm? alarm = twin at either
  cases either with
  | some same => exact ⟨_, mem_verticesOf.mpr ⟨alarm, shown, again⟩, same⟩

omit [Weight W] [IsExact W] in
theorem length_verticesOf_le (alike : Topology.Alike graph next) (alarms : AlarmMap) :
    (verticesOf graph alarms).length ≤ (verticesOf next alarms).length := by
  have distinct : ((verticesOf graph alarms).map graph.keyAt?).Nodup := by
    refine List.pairwise_map.mpr
      (ExtTreeSet.distinct_toList.imp_of_mem fun here _ different same => different ?_)
    obtain ⟨_, _, key, named, _⟩ := exists_corresponding alike here
    exact alike.here.eq_of_keyAt? named (same ▸ named) ▸ compare_self
  have within : (verticesOf graph alarms).map graph.keyAt? ⊆
      (verticesOf next alarms).map next.keyAt? := by
    intro key listed
    obtain ⟨id, member, rfl⟩ := List.mem_map.mp listed
    obtain ⟨other, there, key, one, two⟩ := exists_corresponding alike member
    exact List.mem_map.mpr ⟨other, there, two.trans one.symm⟩
  simpa using (distinct.subperm within).length_le

theorem IsLargest.le (alike : Topology.Alike graph next) (positive : graph.NonNegative)
    {alarms : AlarmMap} {largest other : W}
    (here : IsLargest graph (verticesOf graph alarms) largest)
    (there : IsLargest next (verticesOf next alarms) other) : largest ≤ other := by
  rcases here.attained with rfl | ⟨a, first, b, second, told⟩
  · exact there.nonNegative
  · obtain ⟨c, one, same⟩ := exists_corresponding alike first
    obtain ⟨d, two, equal⟩ := exists_corresponding alike second
    exact there.above one two
      (alike.matched.isDistance alike.here alike.there positive same equal told)

theorem concurs_largestDistance (alike : Topology.Alike graph next)
    (positive : graph.NonNegative) (alarms : AlarmMap) :
    DistanceM.Concurs graph next (largestDistance graph (verticesOf graph alarms))
      (largestDistance next (verticesOf next alarms)) := by
  have known {graph next : Topology W} (alike : Topology.Alike graph next) (id : VertexId)
      (member : id ∈ verticesOf graph alarms) : id ∈ graph.vertices := by
    obtain ⟨_, _, same⟩ := exists_corresponding alike member
    exact same.mem.1
  have stays := positive.congr alike.matched.edges_eq
  obtain ⟨largest, told, here⟩ := reports_largestDistance alike.here positive (known alike)
  obtain ⟨other, again, there⟩ := reports_largestDistance alike.there stays (known alike.symm)
  have same : other = largest := IsOrdered.le_antisymm (there.le alike.symm stays here)
    (here.le alike positive there)
  exact ⟨largest, told, same ▸ again⟩

theorem concurs_measure (alike : Topology.Alike graph next) (positive : graph.NonNegative)
    (alarms : AlarmMap) :
    DistanceM.Concurs graph next (measure graph alarms) (measure next alarms) := by
  have sequential := DistanceM.concurs_sequential graph next
  have count : (verticesOf next alarms).length = (verticesOf graph alarms).length :=
    Nat.le_antisymm (length_verticesOf_le alike.symm alarms) (length_verticesOf_le alike alarms)
  rw [measure, measure]
  dsimp only
  rw [count]
  split
  · have largest := concurs_largestDistance alike positive alarms
    exact sequential.bind largest fun largest => sequential.bind (sequential.pure _) fun _ =>
      sequential.pure _
  · exact sequential.bind (sequential.pure none) fun distance => sequential.pure _

end Spread

/-- The diagnostic text of a situation is the same in topologies that are alike. -/
theorem Situation.concurs_diagnose [IsExact W] (alike : Topology.Alike graph next)
    (positive : graph.NonNegative) (situation : Situation) :
    DistanceM.Concurs graph next (situation.diagnose graph) (situation.diagnose next) :=
  (DistanceM.concurs_sequential graph next).bind
    (Spread.concurs_measure alike positive situation.alarms) fun spread =>
      (DistanceM.concurs_sequential graph next).pure spread.text

end FaultCorrelation
