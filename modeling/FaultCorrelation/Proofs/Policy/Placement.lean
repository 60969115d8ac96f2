import FaultCorrelation.Policy.Evaluation

/-! # Rules do not look at vertices

The facts of a tick hold clusters of located alarms, of which the rules look at the alarms only. So
a policy comes to the same where only the vertices of alarms differ.
-/

namespace FaultCorrelation

/-- A cluster that says nothing of where its alarms are held. -/
def Cluster.unplaced (cluster : Cluster) : Cluster :=
  (cluster.map LocatedAlarm.alarm).map (LocatedAlarm.mk 0)

/-- Facts that say nothing of where alarms are held. -/
def Facts.unplaced (facts : Facts) : Facts :=
  { facts with clusters := facts.clusters.map Cluster.unplaced }

@[simp] theorem Cluster.map_alarm_unplaced (cluster : Cluster) :
    cluster.unplaced.map LocatedAlarm.alarm = cluster.map LocatedAlarm.alarm := by
  rw [unplaced, List.map_map]
  exact List.map_id' _

namespace Rule

variable (facts : Facts) (draft : Draft) (cluster : Cluster)

theorem mappedOf_eq : mappedOf facts draft cluster =
    (cluster.map LocatedAlarm.alarm).filterMap fun alarm =>
      (draft.homeOf? facts.ledger alarm.id).map fun home => (alarm, home) := by
  rw [mappedOf, List.filterMap_map]
  rfl

theorem unmappedOf_eq : unmappedOf facts draft cluster =
    (cluster.map LocatedAlarm.alarm).filter fun alarm =>
      (draft.homeOf? facts.ledger alarm.id).isNone := by
  rw [unmappedOf, List.filter_map]
  rfl

theorem mergeCluster_unplaced :
    mergeCluster facts.unplaced draft cluster.unplaced = mergeCluster facts draft cluster := by
  have mapped : mappedOf facts.unplaced draft cluster.unplaced = mappedOf facts draft cluster := by
    rw [mappedOf_eq, mappedOf_eq, Cluster.map_alarm_unplaced]
    rfl
  have unmapped :
      unmappedOf facts.unplaced draft cluster.unplaced = unmappedOf facts draft cluster := by
    rw [unmappedOf_eq, unmappedOf_eq, Cluster.map_alarm_unplaced]
    rfl
  rw [mergeCluster, mergeCluster, mapped, unmapped]
  rfl

theorem runMerge_unplaced (count : Nat) (clusters : List Cluster) :
    runMerge facts.unplaced draft count (clusters.map Cluster.unplaced) =
      runMerge facts draft count clusters := by
  induction clusters generalizing draft count with
  | nil => rfl
  | cons first rest ih =>
    rw [List.map_cons, runMerge, runMerge, mergeCluster_unplaced]
    split
    · rfl
    · exact ih _ _

theorem startSituation_unplaced (bench : Workbench) :
    startSituation facts.unplaced bench cluster.unplaced = startSituation facts bench cluster := by
  rw [startSituation, startSituation, Cluster.map_alarm_unplaced]
  rfl

theorem runNewSituation_unplaced (bench : Workbench) :
    runNewSituation facts.unplaced bench = runNewSituation facts bench := by
  have clusters : facts.unplaced.clusters = facts.clusters.map Cluster.unplaced := rfl
  rw [runNewSituation, runNewSituation, clusters, List.foldl_map]
  simp only [startSituation_unplaced]

theorem run_unplaced (bench : Workbench) (rule : Rule) :
    rule.run facts.unplaced bench = rule.run facts bench := by
  cases rule with
  | collection => rfl
  | feedback => rfl
  | merge =>
    rw [run, run]
    exact congrArg (fun merged : Except StateFault Nat × Draft =>
      (merged.1, { bench with draft := merged.2 })) (runMerge_unplaced facts bench.draft 0 _)
  | newSituation => rw [run, run, runNewSituation_unplaced]

end Rule

/-- A policy comes to the same wherever the alarms of the clusters are held. -/
theorem Policy.evaluate_unplaced (rules : List Rule) (facts : Facts) (bench : Workbench) :
    evaluate rules facts.unplaced bench = evaluate rules facts bench := by
  simp only [evaluate, applyRule, Rule.run_unplaced]

theorem Facts.unplaced_eq {facts : Facts} {clusters : List Cluster}
    (same : clusters.map (List.map LocatedAlarm.alarm) =
      facts.clusters.map (List.map LocatedAlarm.alarm)) :
    { facts with clusters }.unplaced = facts.unplaced := by
  have unplaced (clusters : List Cluster) : clusters.map Cluster.unplaced =
      (clusters.map (List.map LocatedAlarm.alarm)).map (List.map (LocatedAlarm.mk 0)) := by
    rw [List.map_map]
    rfl
  rw [Facts.unplaced, Facts.unplaced, unplaced, unplaced facts.clusters, same]

end FaultCorrelation
