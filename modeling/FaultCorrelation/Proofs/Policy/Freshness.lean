import Mathlib.Tactic.ByContra
import FaultCorrelation.Proofs.Policy.Evaluation

/-! # Which copies are up to date

When a cluster has been merged, what situations show of its alarms are the instances in the cluster,
but for one case: a cluster that brings no new alarm leaves a situation alone that is not being
revised and whose severity the instances in this one cluster would not change. `laggards` are the
alarms that are left with outdated copies in this way. Whatever comes after keeps copies up to date.
-/

namespace FaultCorrelation

open Std

/-- Whether the alarms of the clusters are the instances of their ids. -/
def Facts.Brings (facts : Facts) (instance? : String → Option Alarm) : Prop :=
  ∀ cluster ∈ facts.clusters, ∀ located ∈ cluster,
    instance? located.alarm.id = some located.alarm

/-- The steps that begin nothing and show instances only. -/
def DraftScope.instances (instance? : String → Option Alarm) : DraftScope where
  Begins _ := False
  Shows alarm := instance? alarm.id = some alarm

/-- Whether a situation is up to date with an alarm, if it shows it. -/
def SituationDraft.IsCurrent (instance? : String → Option Alarm) (alarm : String)
    (drafted : SituationDraft) : Prop :=
  ∀ copy : Alarm, drafted.alarms[alarm]? = some copy → instance? alarm = some copy

/-- Whether all situations are up to date with an alarm, as far as they show it. -/
def Draft.IsCurrent (ledger : Ledger) (instance? : String → Option Alarm) (draft : Draft)
    (alarm : String) : Prop := draft.EveryCopy ledger alarm fun copy => instance? alarm = some copy

variable {instance? : String → Option Alarm}

namespace SituationDraft

theorem IsCurrent.put {drafted : SituationDraft} {alarm : String}
    (current : drafted.IsCurrent instance? alarm) {other : Alarm}
    (brought : instance? other.id = some other) :
    (drafted.put other).IsCurrent instance? alarm := by
  intro copy found
  rw [getElem?_put] at found
  split at found
  · rename_i same
    rw [← same, brought, found]
  · exact current copy found

theorem isCurrent_put (drafted : SituationDraft) {alarm : Alarm}
    (brought : instance? alarm.id = some alarm) :
    (drafted.put alarm).IsCurrent instance? alarm.id := by
  intro copy found
  rw [getElem?_put, if_pos rfl] at found
  rw [brought, found]

/-- Steps that put instances, or nothing, keep a situation up to date. -/
theorem IsCurrent.foldl {step : SituationDraft → Alarm → SituationDraft} {alarm : String}
    {alarms : List Alarm} (keeps : ∀ other ∈ alarms, ∀ under : SituationDraft,
      under.IsCurrent instance? alarm → (step under other).IsCurrent instance? alarm)
    {drafted : SituationDraft} (current : drafted.IsCurrent instance? alarm) :
    (alarms.foldl step drafted).IsCurrent instance? alarm := by
  induction alarms generalizing drafted with
  | nil => exact current
  | cons first rest ih =>
    exact ih (fun other member => keeps other (List.mem_cons_of_mem _ member))
      (keeps first (List.mem_cons_self ..) drafted current)

/-- The step for an alarm brings a situation up to date with it. -/
theorem isCurrent_foldl {step : SituationDraft → Alarm → SituationDraft} {alarm : Alarm}
    {alarms : List Alarm} (member : alarm ∈ alarms)
    (makes : ∀ under : SituationDraft, (step under alarm).IsCurrent instance? alarm.id)
    (keeps : ∀ other ∈ alarms, ∀ under : SituationDraft,
      under.IsCurrent instance? alarm.id → (step under other).IsCurrent instance? alarm.id)
    (drafted : SituationDraft) : (alarms.foldl step drafted).IsCurrent instance? alarm.id := by
  induction alarms generalizing drafted with
  | nil => contradiction
  | cons first rest ih =>
    have later := fun other present => keeps other (List.mem_cons_of_mem first present)
    rcases List.mem_cons.mp member with rfl | member
    · exact (makes drafted).foldl later
    · exact ih member later _

end SituationDraft

namespace Rule

variable {facts : Facts} {draft : Draft} {cluster : Cluster}

theorem renewShown_current {mapped : List Alarm} {survivor : Situation} {alarm : Alarm}
    (coherent : draft.Coherent facts.ledger) (target : survivor.id ∉ draft.absorbed)
    (belongs : draft.homeOf? facts.ledger alarm.id = some survivor.id)
    (brings : ∀ other ∈ mapped, instance? other.id = some other) (member : alarm ∈ mapped) :
    (renewShown draft survivor mapped).IsCurrent facts.ledger instance? alarm.id := by
  intro id copy found
  rw [renewShown, Draft.revise, Draft.copy?_store target] at found
  split at found
  · refine SituationDraft.isCurrent_foldl member (fun under => ?_)
      (fun other present under current => ?_) _ copy found
    · split
      · exact under.isCurrent_put (brings alarm member)
      · rename_i absent
        exact fun copy found => absurd (Collections.mem_of_getElem? found) absent
    · split
      · exact current.put (brings other present)
      · exact current
  · rename_i elsewhere
    have home := coherent.home_of_shown (Option.isSome_of_mem found)
    rw [belongs] at home
    exact absurd (Option.some.inj home) elsewhere

/-- Whether refreshing leaves a situation alone. -/
def leavesAlone (facts : Facts) (draft : Draft) (home : String) (alarms : List Alarm) : Bool :=
  decide (home ∉ draft.situations) && (facts.ledger.situations[home]?).any fun situation =>
    AlarmMap.severity (alarms.foldl (fun map alarm => map.insert alarm.id alarm)
      situation.alarms) = situation.severity

/-- What refreshing makes of the draft of a situation. -/
def refreshedAt (facts : Facts) (home : String) (alarms : List Alarm)
    (underway : Option SituationDraft) : Option SituationDraft :=
  match facts.ledger.situations[home]? with
  | none => underway
  | some situation =>
    if underway = none ∧ AlarmMap.severity (alarms.foldl (fun map alarm =>
        map.insert alarm.id alarm) situation.alarms) = situation.severity then none
    else some ((underway.getD (.ofSituation situation)).putAll alarms)

theorem getElem?_refreshSituation (sound : facts.Sound) (home : String) (alarms : List Alarm)
    (other : String) : (refreshSituation facts draft home alarms).1.situations[other]? =
      if home = other then refreshedAt facts home alarms draft.situations[other]?
      else draft.situations[other]? := by
  rw [refreshSituation, refreshedAt]
  cases known : facts.ledger.situations[home]? with
  | none => exact (ite_self _).symm
  | some situation =>
    obtain rfl := sound.coherent.id_eq known
    dsimp only
    by_cases same : situation.id = other
    · subst same
      simp only [if_true, ExtTreeMap.mem_iff_isSome_getElem?, Option.not_isSome_iff_eq_none]
      split
      · rename_i left
        exact left.1
      · rw [Draft.revise, Draft.store, ExtTreeMap.getElem?_insert_self, Draft.opened,
          ExtTreeMap.getD_eq_getD_getElem?]
    · rw [if_neg same]
      split
      · rfl
      · simp [Draft.revise, Draft.store, ExtTreeMap.getElem?_insert, same]

theorem refreshSituation_frame (facts : Facts) (draft : Draft) (home : String)
    (alarms : List Alarm) :
    (refreshSituation facts draft home alarms).1.homes = draft.homes ∧
      (refreshSituation facts draft home alarms).1.absorbed = draft.absorbed := by
  rw [refreshSituation]
  split
  · exact ⟨rfl, rfl⟩
  · dsimp only
    split <;> exact ⟨rfl, rfl⟩

theorem refreshCopies_frame (facts : Facts) (draft : Draft) (mapped : List (Alarm × String)) :
    (refreshCopies facts draft mapped).1.homes = draft.homes ∧
      (refreshCopies facts draft mapped).1.absorbed = draft.absorbed := by
  rw [refreshCopies_eq]
  refine List.foldlRecOn _ _ (motive := fun (next : Draft) =>
    next.homes = draft.homes ∧ next.absorbed = draft.absorbed) ⟨rfl, rfl⟩ ?_
  rintro next ⟨homes, absorbed⟩ ⟨home, alarms⟩ _
  obtain ⟨later, others⟩ := refreshSituation_frame facts next home alarms
  exact ⟨later.trans homes, others.trans absorbed⟩

/-- Situations are refreshed one independently of the other. -/
theorem getElem?_refreshCopies (sound : facts.Sound) (mapped : List (Alarm × String))
    (home : String) : (refreshCopies facts draft mapped).1.situations[home]? =
      if staleAt facts draft mapped home = [] then draft.situations[home]?
      else refreshedAt facts home (staleAt facts draft mapped home) draft.situations[home]? := by
  have seen := Collections.seen_foldl
    (fun (state : Draft × Nat) home alarms =>
      ((refreshSituation facts state.1 home alarms).1,
        state.2 + (refreshSituation facts state.1 home alarms).2.toNat))
    (fun state home => state.1.situations[home]?) (refreshedAt facts)
    (fun state home alarms other => getElem?_refreshSituation sound home alarms other)
    (staleOf facts draft mapped) (draft, 0) home
  rw [refreshCopies]
  refine seen.trans ?_
  rw [getElem?_staleOf]
  split <;> rfl

theorem leavesAlone_iff {situation : Situation} (alarms : List Alarm)
    (known : facts.ledger.situations[situation.id]? = some situation) :
    leavesAlone facts draft situation.id alarms ↔ draft.situations[situation.id]? = none ∧
      AlarmMap.severity (alarms.foldl (fun map alarm => map.insert alarm.id alarm)
        situation.alarms) = situation.severity := by
  simp only [leavesAlone, known, Option.any_some, Bool.and_eq_true, decide_eq_true_eq,
    ExtTreeMap.mem_iff_isSome_getElem?, Option.not_isSome_iff_eq_none]

/-- What a situation shows after copies have been refreshed. -/
theorem copy?_refreshCopies (sound : facts.Sound) {situation : Situation}
    (known : facts.ledger.situations[situation.id]? = some situation)
    (live : situation.id ∉ draft.absorbed) (mapped : List (Alarm × String)) (alarm : String) :
    let stale := staleAt facts draft mapped situation.id
    (refreshCopies facts draft mapped).1.copy? facts.ledger situation.id alarm =
      if stale = [] ∨ leavesAlone facts draft situation.id stale then
        draft.copy? facts.ledger situation.id alarm
      else ((draft.opened situation).putAll stale).alarms[alarm]? := by
  intro stale
  rw [Draft.copy?, Draft.copy?, if_neg live, (refreshCopies_frame facts draft mapped).2,
    if_neg live, getElem?_refreshCopies sound]
  by_cases none : stale = []
  · rw [if_pos none, if_pos (.inl none)]
  rw [if_neg none, refreshedAt, known]
  dsimp only
  simp only [none, false_or, leavesAlone_iff stale known]
  by_cases left : draft.situations[situation.id]? = Option.none ∧
      AlarmMap.severity (stale.foldl (fun map alarm => map.insert alarm.id alarm)
        situation.alarms) = situation.severity
  · rw [if_pos left, if_pos left, left.1]
  · rw [if_neg left, if_neg left, Option.elim_some, Draft.opened, ExtTreeMap.getD_eq_getD_getElem?]

/-- The alarms whose copies a cluster leaves outdated: no alarm of the cluster is new, and the
situation is left alone. -/
def passedOver (facts : Facts) (draft : Draft) (cluster : Cluster) : List String :=
  let mapped := mappedOf facts draft cluster
  if (unmappedOf facts draft cluster).isEmpty then
    let left := mapped.filter fun entry => entry.1 ∈ staleAt facts draft mapped entry.2 ∧
      leavesAlone facts draft entry.2 (staleAt facts draft mapped entry.2)
    left.map fun entry => entry.1.id
  else []

/-- Copies that are not out of date are those of the cluster. -/
theorem instance_of_not_stale {located : LocatedAlarm} {home : String} {copy : Alarm}
    (brought : instance? located.alarm.id = some located.alarm) (live : home ∉ draft.absorbed)
    (member : (located.alarm, home) ∈ mappedOf facts draft cluster)
    (spared : located.alarm ∉ staleAt facts draft (mappedOf facts draft cluster) home)
    (shown : draft.copy? facts.ledger home located.alarm.id = some copy) :
    instance? located.alarm.id = some copy := by
  rw [brought]
  by_contra outdated
  refine spared (mem_staleAt.mpr ⟨member, copy, (shownCopy?_eq live _).trans shown, ?_⟩)
  exact fun equal => outdated (congrArg some equal.symm)

theorem refreshCopies_current (sound : facts.Sound) (coherent : draft.Coherent facts.ledger)
    (settled : draft.IsSettled facts.ledger)
    (brings : ∀ located ∈ cluster, instance? located.alarm.id = some located.alarm)
    (complete : unmappedOf facts draft cluster = []) {alarm : Alarm} {home : String}
    (member : (alarm, home) ∈ mappedOf facts draft cluster)
    (kept : alarm.id ∉ passedOver facts draft cluster) :
    (refreshCopies facts draft (mappedOf facts draft cluster)).1.IsCurrent facts.ledger instance?
      alarm.id := by
  obtain ⟨⟨located, present, rfl⟩, belongs⟩ := mem_mappedOf.mp member
  obtain ⟨live, there⟩ := Draft.hasSituation_iff.mp
    (coherent.hasSituation_of_homeOf? sound.coherent.orderly belongs)
  obtain ⟨situation, known⟩ := Collections.exists_getElem? (there.elim (settled home) id)
  obtain rfl := sound.coherent.id_eq known
  have steps := refreshCopies_steps (.instances instance?) sound.coherent.orderly coherent brings
  obtain ⟨homes, absorbed⟩ := refreshCopies_frame facts draft (mappedOf facts draft cluster)
  intro id copy found
  have home :=
    (coherent.steps sound.coherent.orderly steps).home_of_shown (Option.isSome_of_mem found)
  rw [Draft.homeOf?_congr homes absorbed, belongs] at home
  obtain rfl := Option.some.inj home
  rw [copy?_refreshCopies sound known live] at found
  generalize same : staleAt facts draft (mappedOf facts draft cluster) situation.id = stale at found
  have brought : ∀ other ∈ stale, instance? other.id = some other := by
    intro other listed
    rw [← same, mem_staleAt, mem_mappedOf] at listed
    obtain ⟨⟨⟨located, present, rfl⟩, _⟩, _⟩ := listed
    exact brings located present
  have fresh (spared : located.alarm ∉ stale) {copy : Alarm} :
      draft.copy? facts.ledger situation.id located.alarm.id = some copy →
        instance? located.alarm.id = some copy :=
    instance_of_not_stale (brings located present) live member (same ▸ spared)
  by_cases listed : located.alarm ∈ stale
  · have touched : ¬ (stale = [] ∨ leavesAlone facts draft situation.id stale) := by
      rintro (none | left)
      · rw [none] at listed
        contradiction
      · apply kept
        simp only [passedOver, complete, List.isEmpty_nil, if_true, List.mem_map, List.mem_filter]
        exact ⟨_, ⟨member, by simp [same, listed, left]⟩, rfl⟩
    rw [if_neg touched] at found
    exact SituationDraft.isCurrent_foldl listed
      (fun under => under.isCurrent_put (brings located present))
      (fun other listed under current => current.put (brought other listed)) _ copy found
  · split at found
    · exact fresh listed found
    · have opened : (draft.opened situation).IsCurrent instance? located.alarm.id := by
        intro copy shown
        rw [Draft.getElem?_opened known live] at shown
        exact fresh listed shown
      exact opened.foldl (fun other listed under current => current.put (brought other listed))
        copy found

/-- When a cluster has been merged, its alarms have up-to-date copies, but for those passed over. -/
theorem mergeCluster_current (sound : facts.Sound) (coherent : draft.Coherent facts.ledger)
    (settled : draft.IsSettled facts.ledger)
    (brings : ∀ located ∈ cluster, instance? located.alarm.id = some located.alarm)
    {next : Draft} {count : Nat} (merged : mergeCluster facts draft cluster = .ok (next, count))
    {located : LocatedAlarm} (present : located ∈ cluster)
    (kept : located.alarm.id ∉ passedOver facts draft cluster) :
    next.IsCurrent facts.ledger instance? located.alarm.id := by
  have allowed : ∀ other, (DraftScope.instances instance?).Shows other →
      other.id = located.alarm.id → instance? located.alarm.id = some other :=
    fun other shows same => same ▸ shows
  cases belongs : draft.homeOf? facts.ledger located.alarm.id with
  | none =>
    -- An alarm that belonged nowhere had no copies before, so only those it joins with.
    obtain ⟨_, _, equal, steps⟩ := mergeCluster_steps (.instances instance?)
      sound.coherent.orderly coherent settled brings
    obtain ⟨rfl, _⟩ := Prod.mk.inj (Except.ok.inj (merged.symm.trans equal))
    refine Draft.EveryCopy.steps (fun id copy found => ?_) sound.coherent.orderly coherent
      allowed steps
    rw [coherent.copy?_of_homeOf?_none belongs] at found
    contradiction
  | some home =>
    have member : (located.alarm, home) ∈ mappedOf facts draft cluster :=
      mem_mappedOf.mpr ⟨⟨located, present, rfl⟩, belongs⟩
    obtain ⟨_, _, equal, ⟨none, _⟩ | ⟨complete, outcome⟩ | ⟨survivor, others, touched, outcome⟩⟩ :=
      mergeCluster_cases sound.coherent.orderly coherent settled cluster
    · rw [none] at member
      contradiction
    · obtain ⟨rfl, _⟩ := Prod.mk.inj (Except.ok.inj (merged.symm.trans equal))
      rw [outcome]
      exact refreshCopies_current sound coherent settled brings complete member kept
    · obtain ⟨rfl, _⟩ := Prod.mk.inj (Except.ok.inj (merged.symm.trans equal))
      rw [outcome]
      obtain ⟨merged, absorbed, target, homes, renewed, joined⟩ :=
        touched.stages (.instances instance?) coherent brings
      have coherent' := coherent.steps sound.coherent.orderly absorbed
      have moved : merged.homeOf? facts.ledger located.alarm.id = some survivor.id := by
        have listed := (touched.mem_iff home).mpr ⟨located, present, belongs⟩
        rw [homes, belongs, Option.map_some]
        split
        · rfl
        · rename_i other
          exact congrArg some ((List.mem_cons.mp listed).resolve_right other)
      have brought : ∀ other ∈ (mappedOf facts draft cluster).map Prod.fst,
          instance? other.id = some other := by
        intro other listed
        obtain ⟨_, entry, rfl⟩ := List.mem_map.mp listed
        obtain ⟨⟨located, present, same⟩, _⟩ := mem_mappedOf.mp entry
        exact same ▸ brings located present
      have current := renewShown_current coherent' target moved brought (List.mem_map_of_mem member)
      exact current.steps sound.coherent.orderly
        (coherent'.steps sound.coherent.orderly renewed) allowed joined

/-- The alarms that merging leaves with outdated copies. -/
def laggards (facts : Facts) : Draft → List Cluster → List String
  | _, [] => []
  | draft, cluster :: rest =>
    match mergeCluster facts draft cluster with
    | .error _ => []
    | .ok (next, _) => passedOver facts draft cluster ++ laggards facts next rest

theorem runMerge_current (sound : facts.Sound) (coherent : draft.Coherent facts.ledger)
    (settled : draft.IsSettled facts.ledger) {clusters : List Cluster}
    (brings : ∀ cluster ∈ clusters, ∀ located ∈ cluster,
      instance? located.alarm.id = some located.alarm) {next : Draft} {count total : Nat}
    (ran : runMerge facts draft count clusters = (.ok total, next)) :
    ∀ cluster ∈ clusters, ∀ located ∈ cluster,
      located.alarm.id ∉ laggards facts draft clusters →
        next.IsCurrent facts.ledger instance? located.alarm.id := by
  have nothing : ∀ id, ¬ (DraftScope.instances instance?).Begins id := fun _ begins => begins
  induction clusters generalizing draft count with
  | nil => exact fun _ member => absurd member List.not_mem_nil
  | cons first rest ih =>
    intro cluster member located present kept
    have later := fun cluster member => brings cluster (List.mem_cons_of_mem first member)
    obtain ⟨merged, changes, equal, steps⟩ := mergeCluster_steps (.instances instance?)
      sound.coherent.orderly coherent settled (brings first (List.mem_cons_self ..))
    rw [runMerge, equal] at ran
    rw [laggards, equal] at kept
    dsimp only at ran kept
    rw [List.mem_append, not_or] at kept
    have coherent' := coherent.steps sound.coherent.orderly steps
    have settled' := settled.steps nothing steps
    rcases List.mem_cons.mp member with rfl | member
    · have current := mergeCluster_current sound coherent settled
        (brings cluster (List.mem_cons_self ..)) equal present kept.1
      obtain ⟨_, _, same, others⟩ :=
        runMerge_steps (.instances instance?) sound.coherent.orderly coherent' settled' nothing
          (count + changes) later
      obtain rfl := (Prod.mk.inj (ran.symm.trans same)).2
      exact current.steps sound.coherent.orderly coherent'
        (fun other shows same => same ▸ shows) others
    · exact ih coherent' settled' later ran cluster member located present kept.2

end Rule

namespace Policy

variable {facts : Facts} {ids : IdSource}

/-- In the draft that is committed the alarms of the clusters have up-to-date copies, but for the
laggards. -/
theorem finalDraft_current (sound : facts.Sound) {now : Int} (fresh : DrawsFresh facts now ids)
    (brings : facts.Brings instance?) : ∀ cluster ∈ facts.clusters, ∀ located ∈ cluster,
    located.alarm.id ∉ Rule.laggards facts (correctedDraft facts now) facts.clusters →
      (finalDraft facts now ids).IsCurrent facts.ledger instance? located.alarm.id := by
  intro cluster member located present kept
  have plain := correctedDraft_plain sound now
  obtain ⟨next, total, ran, _⟩ := runMerge_correctedDraft sound now
  have merged : mergedDraft facts now = next := by rw [mergedDraft, ran]
  have current := Rule.runMerge_current sound plain.coherent plain.settled brings ran cluster member
    located present kept
  rw [← merged] at current
  refine current.steps sound.coherent.orderly (plain.coherent.steps sound.coherent.orderly
    (mergedDraft_steps sound now)) (fun other shows same => ?_) (finalDraft_steps sound fresh)
  obtain ⟨cluster, member, located, present, rfl⟩ := shows
  rw [← same, brings cluster member located present]

end Policy
end FaultCorrelation
