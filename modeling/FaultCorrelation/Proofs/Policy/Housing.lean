import FaultCorrelation.Proofs.Policy.Completion
import FaultCorrelation.Proofs.Policy.Freshness

/-! # Alarms that have a situation

The default policy leaves no alarm of a cluster without a situation. The merge rule houses all
alarms of a cluster if one of them is housed, the rule that starts situations does so if none of
them is. As no alarm is in two clusters, neither bears on what the other clusters find.
-/

namespace FaultCorrelation

open Std

/-- Whether an alarm is in a cluster. -/
def Cluster.Has (cluster : Cluster) (alarm : String) : Prop :=
  ∃ located ∈ cluster, located.alarm.id = alarm

instance (cluster : Cluster) (alarm : String) : Decidable (cluster.Has alarm) :=
  inferInstanceAs (Decidable (∃ located ∈ cluster, located.alarm.id = alarm))

/-- Whether an alarm belongs to a situation. -/
def Draft.IsHoused (ledger : Ledger) (draft : Draft) (alarm : String) : Prop :=
  (draft.homeOf? ledger alarm).isSome

variable {facts : Facts} {draft next : Draft} {cluster : Cluster} {alarm : String}

theorem Cluster.IsApart.not_has {other : Cluster} (apart : cluster.IsApart other)
    (inside : cluster.Has alarm) : ¬ other.Has alarm := by
  rintro ⟨second, there, same⟩
  obtain ⟨first, here, rfl⟩ := inside
  exact apart first here second there same.symm

namespace Rule

theorem exists_isHoused_iff : (∃ other, cluster.Has other ∧
    draft.IsHoused facts.ledger other) ↔ mappedOf facts draft cluster ≠ [] := by
  constructor
  · rintro ⟨_, ⟨located, member, rfl⟩, housed⟩ untouched
    obtain ⟨home, belongs⟩ := Option.isSome_iff_exists.mp housed
    have listed : (located.alarm, home) ∈ mappedOf facts draft cluster :=
      mem_mappedOf.mpr ⟨⟨located, member, rfl⟩, belongs⟩
    rw [untouched] at listed
    contradiction
  · intro touched
    obtain ⟨⟨alarm, home⟩, listed⟩ := List.exists_mem_of_ne_nil _ touched
    obtain ⟨⟨located, member, rfl⟩, belongs⟩ := mem_mappedOf.mp listed
    exact ⟨_, ⟨located, member, rfl⟩, Option.isSome_of_mem belongs⟩

theorem unmappedOf_eq_nil_iff : unmappedOf facts draft cluster = [] ↔
    ∀ located ∈ cluster, draft.IsHoused facts.ledger located.alarm.id := by
  constructor
  · intro complete located member
    by_contra homeless
    have listed : located.alarm ∈ unmappedOf facts draft cluster :=
      mem_unmappedOf.mpr ⟨⟨located, member, rfl⟩, Option.not_isSome_iff_eq_none.mp homeless⟩
    rw [complete] at listed
    contradiction
  · intro housed
    refine List.eq_nil_iff_forall_not_mem.mpr fun alarm unmapped => ?_
    obtain ⟨⟨located, member, rfl⟩, homeless⟩ := mem_unmappedOf.mp unmapped
    exact Option.not_isSome_iff_eq_none.mpr homeless (housed located member)

/-- Folding sends what stands for a touched situation to the survivor, with the new alarms. -/
theorem Touched.fold_view {survivor : Situation} {others : List Situation}
    (touched : Touched facts draft cluster survivor others) (flat : draft.IsFlat)
    (mapped unmapped : List Alarm) :
    let folded := foldInto draft survivor others mapped unmapped
    survivor.id ∈ folded.situations ∧
      (∀ id, folded.resolve id =
        if draft.resolve id ∈ (survivor :: others).map Situation.id then survivor.id
        else draft.resolve id) ∧
      ∀ alarm, folded.homeOf? facts.ledger alarm =
        if alarm ∈ unmapped.map Alarm.id then some survivor.id
        else (draft.homeOf? facts.ledger alarm).map fun home =>
          if home ∈ (survivor :: others).map Situation.id then survivor.id else home := by
  obtain ⟨_, target, homes, resolved⟩ :=
    touched.absorbing (Policy.clusterScope facts fun _ => False) flat
  have sent (id : String) : (if id ∈ others.map Situation.id then survivor.id else id) =
      if id ∈ (survivor :: others).map Situation.id then survivor.id else id := by
    by_cases same : id = survivor.id <;> simp [same]
  simp only [foldInto]
  refine ⟨?_, fun id => ?_, fun alarm => ?_⟩
  · rw [Draft.associateAll_eq]
    exact ExtTreeMap.mem_insert_self
  · rw [← sent, ← resolved]
    refine Draft.resolve_congr ?_ id
    rw [Draft.associateAll_eq]
    rfl
  · rw [Draft.homeOf?_associateAll]
    split
    · exact congrArg some (Draft.resolve_of_not_mem target)
    · rw [Draft.homeOf?_revise, homes]
      simp only [sent]

theorem isHoused_foldInto {survivor : Situation} {others : List Situation}
    (touched : Touched facts draft cluster survivor others) (flat : draft.IsFlat)
    (mapped unmapped : List Alarm) (alarm : String) :
    (foldInto draft survivor others mapped unmapped).IsHoused facts.ledger alarm ↔
      alarm ∈ unmapped.map Alarm.id ∨ draft.IsHoused facts.ledger alarm := by
  obtain ⟨_, _, homes⟩ := touched.fold_view flat mapped unmapped
  rw [Draft.IsHoused, Draft.IsHoused, homes]
  split
  · rename_i listed
    exact iff_of_true rfl (.inl listed)
  · rename_i unlisted
    rw [Option.isSome_map, or_iff_right unlisted]

section Merge

variable (housed : facts.ledger.Housed) (seated : draft.Seated facts)
include housed seated

/-- Merging houses all alarms of a cluster if one of them is housed. -/
theorem isHoused_mergeCluster (listed : cluster ∈ facts.clusters) {count : Nat}
    (merged : mergeCluster facts draft cluster = .ok (next, count)) (alarm : String) :
    next.IsHoused facts.ledger alarm ↔ draft.IsHoused facts.ledger alarm ∨
      cluster.Has alarm ∧ ∃ other, cluster.Has other ∧ draft.IsHoused facts.ledger other := by
  obtain ⟨_, _, equal, ⟨untouched, outcome⟩ | ⟨complete, outcome⟩ | ⟨survivor, others, touched,
    outcome⟩⟩ := mergeCluster_of_seated housed seated listed <;>
    obtain ⟨rfl, _⟩ := Prod.mk.inj (Except.ok.inj (merged.symm.trans equal)) <;>
    rw [outcome, exists_isHoused_iff]
  · exact (or_iff_left fun both => both.2 untouched).symm
  · obtain ⟨homes, absorbed⟩ := refreshCopies_frame facts draft (mappedOf facts draft cluster)
    rw [Draft.IsHoused, Draft.homeOf?_congr homes absorbed]
    refine (or_iff_left_of_imp ?_).symm
    rintro ⟨⟨located, member, rfl⟩, _⟩
    exact unmappedOf_eq_nil_iff.mp complete located member
  · have touches : mappedOf facts draft cluster ≠ [] := by
      obtain ⟨located, member, belongs⟩ := (touched.mem_iff survivor.id).mp (List.mem_cons_self ..)
      exact exists_isHoused_iff.mp
        ⟨_, ⟨located, member, rfl⟩, Option.isSome_of_mem belongs⟩
    rw [isHoused_foldInto touched seated.lodged.flat, and_iff_left touches]
    constructor
    · rintro (listed | housed)
      · obtain ⟨_, unmapped, rfl⟩ := List.mem_map.mp listed
        obtain ⟨⟨located, member, rfl⟩, _⟩ := mem_unmappedOf.mp unmapped
        exact .inr ⟨located, member, rfl⟩
      · exact .inl housed
    · rintro (housed | ⟨located, member, rfl⟩)
      · exact .inr housed
      · by_cases housed : draft.IsHoused facts.ledger located.alarm.id
        · exact .inr housed
        · exact .inl (List.mem_map_of_mem (mem_unmappedOf.mpr
            ⟨⟨located, member, rfl⟩, Option.not_isSome_iff_eq_none.mp housed⟩))

theorem isHoused_runMerge {clusters : List Cluster}
    (listed : ∀ cluster ∈ clusters, cluster ∈ facts.clusters)
    (apart : clusters.Pairwise Cluster.IsApart) {count total : Nat}
    (ran : runMerge facts draft count clusters = (.ok total, next)) (alarm : String) :
    next.IsHoused facts.ledger alarm ↔ draft.IsHoused facts.ledger alarm ∨
      ∃ cluster ∈ clusters, cluster.Has alarm ∧
        ∃ other, cluster.Has other ∧ draft.IsHoused facts.ledger other := by
  induction clusters generalizing draft count with
  | nil =>
    obtain ⟨_, rfl⟩ := Prod.mk.inj ran
    simp
  | cons first rest ih =>
    obtain ⟨others, apart⟩ := List.pairwise_cons.mp apart
    have here := listed first (List.mem_cons_self ..)
    obtain ⟨merged, changes, equal, settled⟩ := mergeCluster_resettles housed seated here
    rw [runMerge, equal] at ran
    have houses := isHoused_mergeCluster housed seated here equal
    rw [ih (seated.resettles settled) (fun cluster member =>
      listed cluster (List.mem_cons_of_mem _ member)) apart ran, houses]
    have elsewhere {cluster : Cluster} (member : cluster ∈ rest) {other : String}
        (inside : cluster.Has other) :
        merged.IsHoused facts.ledger other ↔ draft.IsHoused facts.ledger other := by
      rw [houses]
      exact or_iff_left fun both => (others cluster member).not_has both.1 inside
    simp only [List.mem_cons, exists_eq_or_imp, or_assoc]
    refine or_congr_right (or_congr_right (exists_congr fun cluster => and_congr_right fun member =>
      and_congr_right fun _ => exists_congr fun other => and_congr_right fun inside => ?_))
    exact elsewhere member inside

end Merge

/-- Starting a situation houses all alarms of a cluster if none of them is housed. -/
theorem isHoused_startSituation (facts : Facts) (bench : Workbench) (cluster : Cluster)
    (alarm : String) : (startSituation facts bench cluster).1.draft.IsHoused facts.ledger alarm ↔
      bench.draft.IsHoused facts.ledger alarm ∨
        cluster.Has alarm ∧
          ∀ other, cluster.Has other → ¬ bench.draft.IsHoused facts.ledger other := by
  rcases startSituation_spec facts bench cluster with ⟨left, same⟩ | ⟨⟨_, homeless⟩, started⟩
  · rw [same]
    refine (or_iff_left ?_).symm
    rintro ⟨⟨located, member, _⟩, none⟩
    rcases left with rfl | ⟨other, present, housed⟩
    · contradiction
    · exact none _ ⟨other, present, rfl⟩ housed
  · have none : ∀ other, cluster.Has other → ¬ bench.draft.IsHoused facts.ledger other := by
      rintro _ ⟨located, member, rfl⟩
      exact Option.not_isSome_iff_eq_none.mpr (homeless located member)
    rw [started, and_iff_left none, Draft.IsHoused, Draft.homeOf?_associateAll]
    split
    · rename_i listed
      simp only [List.map_map, List.mem_map, Function.comp_apply] at listed
      exact iff_of_true rfl (.inr listed)
    · rename_i unlisted
      simp only [List.map_map, List.mem_map, Function.comp_apply] at unlisted
      exact (or_iff_left unlisted).symm

theorem isHoused_runNewSituation (apart : facts.Apart) (bench : Workbench) (alarm : String) :
    (runNewSituation facts bench).1.draft.IsHoused facts.ledger alarm ↔
      bench.draft.IsHoused facts.ledger alarm ∨ ∃ cluster ∈ facts.clusters, cluster.Has alarm ∧
        ∀ other, cluster.Has other → ¬ bench.draft.IsHoused facts.ledger other := by
  rw [runNewSituation_eq]
  rw [Facts.Apart] at apart
  generalize facts.clusters = clusters at apart
  induction clusters generalizing bench with
  | nil => simp
  | cons first rest ih =>
    obtain ⟨others, apart⟩ := List.pairwise_cons.mp apart
    have housed := isHoused_startSituation facts bench first
    have elsewhere {cluster : Cluster} (member : cluster ∈ rest) {other : String}
        (inside : cluster.Has other) :
        (startSituation facts bench first).1.draft.IsHoused facts.ledger other ↔
          bench.draft.IsHoused facts.ledger other := by
      rw [housed]
      exact or_iff_left fun both => (others cluster member).not_has both.1 inside
    rw [List.foldl_cons, ih _ apart, housed]
    simp only [List.mem_cons, exists_eq_or_imp, or_assoc]
    refine or_congr_right (or_congr_right (exists_congr fun cluster => and_congr_right fun member =>
      and_congr_right fun _ => forall_congr' fun other => imp_congr_right fun inside => ?_))
    exact not_congr (elsewhere member inside)

end Rule

namespace Policy

/-- In the draft that is committed all alarms of the clusters have a situation. -/
theorem finalDraft_houses (housed : facts.ledger.Housed) (apart : facts.Apart) (now : Int)
    (ids : IdSource) :
    ∀ cluster ∈ facts.clusters, ∀ located ∈ cluster,
      (finalDraft facts now ids).IsHoused facts.ledger located.alarm.id := by
  intro cluster listed located member
  have inside : cluster.Has located.alarm.id := ⟨located, member, rfl⟩
  obtain ⟨next, total, ran, _⟩ := runMerge_corrected housed now
  have merged : mergedDraft facts now = next := by rw [mergedDraft, ran]
  have houses := Rule.isHoused_runMerge housed (seated_correctedDraft housed now)
    (fun _ listed => listed) apart ran
  rw [finalDraft, evaluate_eq_runNewSituation housed, merged, Rule.isHoused_runNewSituation apart]
  dsimp only
  by_cases before : next.IsHoused facts.ledger located.alarm.id
  · exact .inl before
  -- Had another alarm of the cluster been housed, merging would have housed this one.
  refine .inr ⟨cluster, listed, inside, fun other within somewhere => before ?_⟩
  rcases (houses other).mp somewhere with already | ⟨touched, present, has, another⟩
  · exact (houses _).mpr (.inr ⟨cluster, listed, inside, other, within, already⟩)
  · obtain ⟨first, here, same⟩ := within
    obtain ⟨second, there, equal⟩ := has
    obtain rfl := apart.eq listed present here there (same.trans equal.symm)
    exact (houses _).mpr (.inr ⟨cluster, listed, inside, another⟩)

end Policy
end FaultCorrelation
