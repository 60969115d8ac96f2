import Mathlib.Data.List.Pairwise
import FaultCorrelation.Proofs.Cluster.Apart
import FaultCorrelation.Proofs.Ledger.Lodging
import FaultCorrelation.Proofs.Policy.Evaluation

/-! # Rules that cannot fail

Whatever rules a policy lists, and in whatever order, none of them fails. Only the merge rule could:
it looks up the situations that the alarms of a cluster belong to. A situation that is not in the
ledger has been started in this tick, for a whole cluster at once. The alarms of that cluster go on
belonging somewhere, so that the merge rule leaves it at refreshing copies, which asks for nothing.
No other cluster has alarms of that situation, as clusters have nothing in common.
-/

namespace FaultCorrelation

open Std

/-- Whether no alarm is in two clusters. -/
def Facts.Apart (facts : Facts) : Prop := facts.clusters.Pairwise Cluster.IsApart

variable {facts : Facts} {draft next : Draft}

theorem Facts.Apart.eq (apart : facts.Apart) {first second : Cluster} {located other : LocatedAlarm}
    (here : first ∈ facts.clusters) (there : second ∈ facts.clusters) (inside : located ∈ first)
    (within : other ∈ second) (same : located.alarm.id = other.alarm.id) : first = second := by
  by_contra different
  exact List.Pairwise.forall apart here there different located inside other within same

namespace Draft

/-- What a draft is like between rules: a cluster of which some alarm belongs to a situation that is
not in the ledger has no alarm that belongs nowhere. -/
structure Seated (facts : Facts) (draft : Draft) : Prop where
  lodged : draft.Lodged facts.ledger
  whole {cluster : Cluster} : cluster ∈ facts.clusters → ∀ located ∈ cluster, ∀ home : String,
    draft.homeOf? facts.ledger located.alarm.id = some home → home ∉ facts.ledger.situations →
      ∀ other ∈ cluster, (draft.homeOf? facts.ledger other.alarm.id).isSome

theorem seated_new (housed : facts.ledger.Housed) (time : Int) : (new time).Seated facts where
  lodged := lodged_new facts.ledger time
  whole _ located _ home belongs unknown := by
    rw [homeOf?_new] at belongs
    exact absurd (housed.home_known belongs) unknown

theorem Seated.resettles (seated : draft.Seated facts)
    (settled : Resettles facts.ledger draft next) : next.Seated facts where
  lodged := settled.lodged
  whole listed located member home belongs unknown other elsewhere := by
    have before := (settled.moved belongs).resolve_right unknown
    exact settled.kept (seated.whole listed located member home before unknown other elsewhere)

theorem associateAll_eq (draft : Draft) (alarms : List String) (home : String) :
    draft.associateAll alarms home = { draft with
      homes := alarms.foldl (fun homes alarm => homes.insert alarm (some home)) draft.homes } := by
  induction alarms generalizing draft with
  | nil => rfl
  | cons first rest ih => exact ih (draft.associate first home)

theorem homeOf?_associateAll (draft : Draft) (ledger : Ledger) (alarms : List String)
    (home alarm : String) : (draft.associateAll alarms home).homeOf? ledger alarm =
      if alarm ∈ alarms then some (draft.resolve home) else draft.homeOf? ledger alarm := by
  induction alarms generalizing draft with
  | nil => rfl
  | cons first rest ih =>
    have step : draft.associateAll (first :: rest) home =
        (draft.associate first home).associateAll rest home := rfl
    have same : (draft.associate first home).resolve home = draft.resolve home := rfl
    rw [step, ih, homeOf?_associate, same]
    by_cases listed : alarm ∈ rest
    · simp [listed]
    · by_cases equal : first = alarm
      · simp [equal]
      · simp [listed, equal, Ne.symm equal]

end Draft

namespace Rule

open Draft (Resettles)

section Changes

variable (lodged : draft.Lodged facts.ledger)
include lodged

theorem runCollection_resettles : Resettles facts.ledger draft (runCollection facts draft).1 :=
  Draft.resettles_foldl (fun _ lodged alarm _ => lodged.release alarm.id) lodged

theorem applyFeedback_resettles (housed : facts.ledger.Housed) (feedback : Feedback) :
    Resettles facts.ledger draft (applyFeedback facts draft feedback).1 := by
  have there {id : String} {situation : Situation}
      (found : facts.ledger.situations[id]? = some situation) :
      situation.id ∈ facts.ledger.situations :=
    (housed.id_eq found).symm ▸ Collections.mem_of_getElem? found
  have live := Draft.resolve_not_mem lodged.flat feedback.situation
  rw [applyFeedback]
  generalize draft.resolve feedback.situation = id at live
  split
  · exact lodged.refl
  rename_i situation found
  have known := Collections.mem_of_getElem? found
  split
  · have hidden :=
      lodged.revise (there found) (SituationDraft.isOfAlarms_erase feedback.alarm)
    have excluded := hidden.trans (hidden.lodged.exclude id feedback.alarm)
    rw [applyFalsePositive]
    dsimp only
    split
    · exact excluded.trans (excluded.lodged.associate feedback.alarm known live)
    · exact excluded
  · split
    · rename_i alarm _
      -- The situation that the alarm leaves, if there is one, comes first.
      have shows (left : Draft) (moved : Resettles facts.ledger draft left)
          (same : left.absorbed = draft.absorbed) : Resettles facts.ledger draft
            (((left.readmit id alarm.id).associate alarm.id id).revise situation fun under =>
              under.put alarm) := by
        have readmitted := moved.trans (moved.lodged.readmit id alarm.id)
        have joined := readmitted.trans
          (readmitted.lodged.associate alarm.id known (same ▸ live))
        exact joined.trans
          (joined.lodged.revise (there found) (SituationDraft.isOfAlarms_put alarm))
      rw [applyFalseNegative]
      dsimp only
      split
      · rename_i other previous
        obtain ⟨home, _, elsewhere⟩ := Option.bind_eq_some_iff.mp previous
        split at elsewhere
        · contradiction
        · exact shows _
            (lodged.revise (there elsewhere) (SituationDraft.isOfAlarms_erase alarm.id)) rfl
      · exact shows draft lodged.refl rfl
    · exact lodged.refl
  · exact lodged.refl

theorem runFeedback_resettles (housed : facts.ledger.Housed) :
    Resettles facts.ledger draft (runFeedback facts draft).1 := by
  rw [runFeedback_eq]
  exact Draft.resettles_foldl
    (fun _ lodged feedback _ => applyFeedback_resettles lodged housed feedback) lodged

theorem refreshSituation_resettles (housed : facts.ledger.Housed) (home : String)
    (alarms : List Alarm) :
    Resettles facts.ledger draft (refreshSituation facts draft home alarms).1 := by
  rw [refreshSituation]
  split
  · exact lodged.refl
  rename_i situation found
  dsimp only
  split
  · exact lodged.refl
  · exact lodged.revise ((housed.id_eq found).symm ▸ Collections.mem_of_getElem? found)
      (SituationDraft.isOfAlarms_putAll alarms)

theorem refreshCopies_resettles (housed : facts.ledger.Housed) (mapped : List (Alarm × String)) :
    Resettles facts.ledger draft (refreshCopies facts draft mapped).1 := by
  rw [refreshCopies_eq]
  exact Draft.resettles_foldl
    (fun _ lodged entry _ => refreshSituation_resettles lodged housed entry.1 entry.2) lodged

theorem foldInto_resettles {cluster : Cluster} {survivor : Situation} {others : List Situation}
    (touched : Touched facts draft cluster survivor others) (mapped unmapped : List Alarm) :
    Resettles facts.ledger draft (foldInto draft survivor others mapped unmapped) := by
  have known := Collections.mem_of_getElem? (touched.known survivor (List.mem_cons_self ..))
  obtain ⟨absorbed, live⟩ := lodged.absorbAll known
    (touched.live survivor (List.mem_cons_self ..))
    (fun other member => touched.live other (List.mem_cons_of_mem _ member)) touched.distinct
  have putShown : SituationDraft.IsOfAlarms fun under => mapped.foldl (fun under alarm =>
      if alarm.id ∈ under.alarms then under.put alarm else under) under :=
    SituationDraft.isOfAlarms_foldl (fun alarm under => by
      dsimp only
      split
      · exact ⟨_, rfl⟩
      · exact ⟨under.alarms, rfl⟩) mapped
  have renewed := absorbed.trans
    (absorbed.lodged.revise known (putShown.comp (SituationDraft.isOfAlarms_putAll unmapped)))
  exact renewed.trans (renewed.lodged.associateAll _ known live)

end Changes

section Clusters

variable (housed : facts.ledger.Housed)
include housed

/-- Merging a cluster succeeds, in one of three ways. -/
theorem mergeCluster_of_seated (seated : draft.Seated facts) {cluster : Cluster}
    (listed : cluster ∈ facts.clusters) :
    ∃ next count, mergeCluster facts draft cluster = .ok (next, count) ∧
      (mappedOf facts draft cluster = [] ∧ next = draft ∨
        unmappedOf facts draft cluster = [] ∧
          next = (refreshCopies facts draft (mappedOf facts draft cluster)).1 ∨
        ∃ survivor others, Touched facts draft cluster survivor others ∧
          next = foldInto draft survivor others ((mappedOf facts draft cluster).map Prod.fst)
            (unmappedOf facts draft cluster)) := by
  refine mergeCluster_of_placed housed fun located member home belongs =>
    ⟨seated.lodged.live_of_homeOf? belongs, fun incomplete => ?_⟩
  obtain ⟨alarm, unmapped⟩ := List.exists_mem_of_ne_nil _ incomplete
  obtain ⟨⟨other, elsewhere, rfl⟩, homeless⟩ := mem_unmappedOf.mp unmapped
  by_contra unknown
  have somewhere := seated.whole listed located member home belongs unknown other elsewhere
  rw [homeless] at somewhere
  contradiction

theorem mergeCluster_resettles (seated : draft.Seated facts) {cluster : Cluster}
    (listed : cluster ∈ facts.clusters) :
    ∃ next count, mergeCluster facts draft cluster = .ok (next, count) ∧
      Resettles facts.ledger draft next := by
  have lodged := seated.lodged
  obtain ⟨next, count, merged, ⟨_, rfl⟩ | ⟨_, rfl⟩ | ⟨survivor, others, touched, rfl⟩⟩ :=
    mergeCluster_of_seated housed seated listed
  · exact ⟨next, count, merged, lodged.refl⟩
  · exact ⟨_, count, merged, refreshCopies_resettles lodged housed _⟩
  · exact ⟨_, count, merged, foldInto_resettles lodged touched _ _⟩

theorem runMerge_resettles (seated : draft.Seated facts) (count : Nat) {clusters : List Cluster}
    (listed : ∀ cluster ∈ clusters, cluster ∈ facts.clusters) :
    ∃ next total, runMerge facts draft count clusters = (.ok total, next) ∧
      Resettles facts.ledger draft next := by
  induction clusters generalizing draft count with
  | nil => exact ⟨draft, count, rfl, seated.lodged.refl⟩
  | cons first rest ih =>
    obtain ⟨merged, changes, equal, settled⟩ :=
      mergeCluster_resettles housed seated (listed first (List.mem_cons_self ..))
    obtain ⟨next, total, ran, others⟩ := ih (seated.resettles settled) (count + changes)
      fun cluster member => listed cluster (List.mem_cons_of_mem _ member)
    refine ⟨next, total, ?_, settled.trans others⟩
    rw [runMerge, equal]
    exact ran

omit housed in
/-- A situation is started for a whole cluster, whatever id it gets. -/
theorem startSituation_seated (apart : facts.Apart) {bench : Workbench}
    (seated : bench.draft.Seated facts) {cluster : Cluster} (listed : cluster ∈ facts.clusters) :
    (startSituation facts bench cluster).1.draft.Seated facts := by
  rcases startSituation_spec facts bench cluster with ⟨_, left⟩ | ⟨_, started⟩
  · rw [left]
    exact seated
  rw [started]
  have named : ((bench.draft.openedNew (bench.ids.name bench.ids.next)).putAll
      (cluster.map LocatedAlarm.alarm)).id = bench.ids.name bench.ids.next :=
    (SituationDraft.putAll_id _ _).trans (seated.lodged.isNamed.openedNew_id _)
  refine ⟨(seated.lodged.lodged_store named).lodged_associateAll _
      (.inl ExtTreeMap.mem_insert_self),
    fun {touched} there located member home belongs unknown other elsewhere => ?_⟩
  change (Draft.homeOf? (Draft.associateAll _ _ _) _ _) = _ at belongs
  change (Draft.homeOf? (Draft.associateAll _ _ _) _ _).isSome
  rw [Draft.homeOf?_associateAll] at belongs ⊢
  split at belongs
  · rename_i started
    obtain ⟨_, among, same⟩ := List.mem_map.mp started
    obtain ⟨origin, inside, rfl⟩ := List.mem_map.mp among
    obtain rfl := apart.eq listed there inside member same
    rw [if_pos (List.mem_map_of_mem (List.mem_map_of_mem elsewhere))]
    rfl
  · split
    · rfl
    · rw [Draft.reviseNew, Draft.homeOf?_store] at belongs ⊢
      exact seated.whole there located member home belongs unknown other elsewhere

omit housed in
theorem runNewSituation_seated (apart : facts.Apart) {bench : Workbench}
    (seated : bench.draft.Seated facts) : (runNewSituation facts bench).1.draft.Seated facts := by
  rw [runNewSituation_eq]
  exact List.foldlRecOn facts.clusters _
    (motive := fun (bench : Workbench) => bench.draft.Seated facts) seated
    fun _ seated _ listed => startSituation_seated apart seated listed

/-- The rules that start no situation do not fail and only resettle alarms. -/
theorem run_resettles {bench : Workbench} (seated : bench.draft.Seated facts) {rule : Rule}
    (other : rule ≠ .newSituation) : ∃ count after, rule.run facts bench = (.ok count, after) ∧
      Resettles facts.ledger bench.draft after.draft := by
  cases rule with
  | collection => exact ⟨_, _, rfl, runCollection_resettles seated.lodged⟩
  | feedback => exact ⟨_, _, rfl, runFeedback_resettles seated.lodged housed⟩
  | merge =>
    obtain ⟨next, total, ran, settled⟩ :=
      runMerge_resettles housed seated 0 fun cluster listed => listed
    refine ⟨total, { bench with draft := next }, ?_, settled⟩
    rw [run, ran]
  | newSituation => contradiction

/-- No rule fails. -/
theorem run_completes (apart : facts.Apart) {bench : Workbench} (seated : bench.draft.Seated facts)
    (rule : Rule) : ∃ count after, rule.run facts bench = (.ok count, after) ∧
      after.draft.Seated facts := by
  by_cases starts : rule = .newSituation
  · subst starts
    exact ⟨_, _, rfl, runNewSituation_seated apart seated⟩
  · obtain ⟨count, after, ran, settled⟩ := run_resettles housed seated starts
    exact ⟨count, after, ran, seated.resettles settled⟩

end Clusters
end Rule

namespace Policy

open Draft (Resettles)

section DefaultOrder

variable (housed : facts.ledger.Housed) (now : Int)
include housed

theorem correctedDraft_resettles :
    Resettles facts.ledger (.new now) (correctedDraft facts now) :=
  have collected := Rule.runCollection_resettles (Draft.lodged_new facts.ledger now)
  collected.trans (Rule.runFeedback_resettles collected.lodged housed)

theorem seated_correctedDraft : (correctedDraft facts now).Seated facts :=
  (Draft.seated_new housed now).resettles (correctedDraft_resettles housed now)

theorem runMerge_corrected : ∃ next total,
    Rule.runMerge facts (correctedDraft facts now) 0 facts.clusters = (.ok total, next) ∧
      Resettles facts.ledger (correctedDraft facts now) next :=
  Rule.runMerge_resettles housed (seated_correctedDraft housed now) 0 fun _ listed => listed

theorem mergedDraft_resettles :
    Resettles facts.ledger (correctedDraft facts now) (mergedDraft facts now) := by
  obtain ⟨next, total, ran, settled⟩ := runMerge_corrected housed now
  rw [mergedDraft, ran]
  exact settled

/-- With the default policy situations are started once clusters have been merged. -/
theorem evaluate_eq_runNewSituation (ids : IdSource) :
    (evaluate Rule.defaultOrder facts { draft := .new now, ids }).1 =
      (Rule.runNewSituation facts { draft := mergedDraft facts now, ids }).1 := by
  obtain ⟨next, total, ran, _⟩ := runMerge_corrected housed now
  exact (evaluate_of_merged ran ids).1

end DefaultOrder

/-- No evaluation fails in any rule, whatever the rules. -/
theorem evaluate_completes (housed : facts.ledger.Housed) (apart : facts.Apart) (rules : List Rule)
    (ids : IdSource) (time : Int) :
    let evaluated := evaluate rules facts { draft := .new time, ids }
    evaluated.2.failures = [] ∧ evaluated.1.draft.Lodged facts.ledger := by
  suffices complete : (evaluate rules facts { draft := .new time, ids }).2.failures = [] ∧
      (evaluate rules facts { draft := .new time, ids }).1.draft.Seated facts from
    ⟨complete.1, complete.2.lodged⟩
  rw [evaluate]
  refine List.foldlRecOn rules _
    (motive := fun (before : Workbench × EvaluationReport) =>
      before.2.failures = [] ∧ before.1.draft.Seated facts)
    ⟨rfl, Draft.seated_new housed time⟩ ?_
  rintro ⟨bench, report⟩ ⟨none, seated⟩ rule _
  obtain ⟨count, after, ran, settled⟩ := Rule.run_completes housed apart seated rule
  dsimp only
  rw [applyRule, ran]
  exact ⟨none, settled⟩

end Policy
end FaultCorrelation
