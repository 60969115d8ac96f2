import FaultCorrelation.Proofs.Policy.Housing

/-! # Which situations are started

The rule that starts situations goes through the clusters in order. A cluster gets a situation of
its own if it has alarms and none of them belongs anywhere; the situation shows the alarms of the
cluster and nothing else, and from then on they belong to it. As alarms that belong somewhere are
left alone later on, no two of the situations that are started show a common alarm
(`Draft.Sown.eq_of_shown`). What is needed of the ids drawn is that they are not those of drafts
that are under way.
-/

namespace FaultCorrelation

open Std

variable {facts : Facts} {base draft : Draft} {cluster : Cluster}

/-- The draft of the situation that is started for a cluster. -/
def Cluster.seed (cluster : Cluster) (id : String) (created : Int) : SituationDraft :=
  (SituationDraft.start id created).putAll (cluster.map LocatedAlarm.alarm)

namespace Cluster

variable {id : String} {created : Int}

theorem seed_created : (cluster.seed id created).created = created := by
  obtain ⟨alarms, same⟩ := SituationDraft.isOfAlarms_putAll (cluster.map LocatedAlarm.alarm)
    (SituationDraft.start id created)
  exact congrArg SituationDraft.created same

theorem mem_seed_iff {alarm : String} :
    alarm ∈ (cluster.seed id created).alarms ↔ cluster.Has alarm := by
  rw [ExtTreeMap.mem_iff_isSome_getElem?, seed, SituationDraft.isSome_getElem?_putAll]
  simp [SituationDraft.start, Cluster.Has]

/-- A situation that is started shows the alarms of its cluster and nothing else. -/
theorem getElem?_seed_iff (single : ∀ one ∈ cluster, ∀ other ∈ cluster,
      one.alarm.id = other.alarm.id → one.alarm = other.alarm) {alarm : String} {copy : Alarm} :
    (cluster.seed id created).alarms[alarm]? = some copy ↔
      copy.id = alarm ∧ ∃ located ∈ cluster, located.alarm = copy := by
  have comes {alarm : String} {copy : Alarm}
      (found : (cluster.seed id created).alarms[alarm]? = some copy) :
      copy.id = alarm ∧ ∃ located ∈ cluster, located.alarm = copy := by
    rcases SituationDraft.mem_of_getElem?_putAll found with ⟨member, same⟩ | before
    · exact ⟨same, List.mem_map.mp member⟩
    · simp [SituationDraft.start] at before
  refine ⟨comes, ?_⟩
  rintro ⟨rfl, located, member, rfl⟩
  obtain ⟨copy, found⟩ := Collections.exists_getElem? (mem_seed_iff.mpr ⟨located, member, rfl⟩)
  obtain ⟨same, other, inside, rfl⟩ := comes found
  rw [found, single other inside located member same]

end Cluster

namespace Draft

theorem getElem?_homes_associateAll (draft : Draft) (alarms : List String) (home alarm : String) :
    (draft.associateAll alarms home).homes[alarm]? =
      if alarm ∈ alarms then some (some home) else draft.homes[alarm]? := by
  induction alarms generalizing draft with
  | nil => rfl
  | cons first rest ih =>
    have step : draft.associateAll (first :: rest) home =
        (draft.associate first home).associateAll rest home := rfl
    rw [step, ih]
    by_cases later : alarm ∈ rest
    · simp [later]
    · by_cases same : first = alarm
      · simp [same, associate]
      · simp [later, same, Ne.symm same, associate, ExtTreeMap.getElem?_insert]

/-- What a draft is like while situations are started, compared with one from before. -/
structure Sown (facts : Facts) (base draft : Draft) : Prop where
  time_eq : draft.time = base.time
  kept {alarm : String} : base.IsHoused facts.ledger alarm → draft.IsHoused facts.ledger alarm
  seeded {id : String} {drafted : SituationDraft} : draft.situations[id]? = some drafted →
    drafted.isNew → ∃ cluster ∈ facts.clusters, cluster ≠ [] ∧ drafted = cluster.seed id base.time ∧
      ∀ located ∈ cluster, ¬ base.IsHoused facts.ledger located.alarm.id ∧
        draft.homes[located.alarm.id]? = some (some id)

namespace Sown

/-- Merging starts nothing. -/
theorem of_resettles (settled : Resettles facts.ledger base draft)
    (none : ∀ id : String, ∀ drafted : SituationDraft, base.situations[id]? = some drafted →
      drafted.isNew = false) : base.Sown facts draft where
  time_eq := settled.time_eq
  kept := settled.kept
  seeded found new := by
    obtain ⟨before, present, same⟩ | ⟨_, old⟩ := settled.drafts found
    · rw [same, none _ before present] at new
      contradiction
    · rw [old] at new
      contradiction

/-- Starting a situation under an id that is not in use. -/
theorem start (sown : base.Sown facts draft) {id : String} (unused : id ∉ draft.situations)
    (listed : cluster ∈ facts.clusters) (nonempty : cluster ≠ [])
    (homeless : ∀ located ∈ cluster, ¬ draft.IsHoused facts.ledger located.alarm.id) :
    let alarms := cluster.map LocatedAlarm.alarm
    base.Sown facts ((draft.reviseNew id fun under => under.putAll alarms).associateAll
      (alarms.map Alarm.id) id) := by
  intro alarms
  have opened : draft.openedNew id = .start id base.time := by
    rw [openedNew, ExtTreeMap.getD_eq_getD_getElem?, ExtTreeMap.getElem?_eq_none unused,
      Option.getD_none, sown.time_eq]
  have begun : (draft.reviseNew id fun under => under.putAll alarms) =
      draft.store id (cluster.seed id base.time) := by
    rw [reviseNew, opened, Cluster.seed]
  rw [begun]
  have joins {alarm : String} : alarm ∈ alarms.map Alarm.id ↔ cluster.Has alarm := by
    simp [alarms, Cluster.Has]
  have time : ((draft.store id (cluster.seed id base.time)).associateAll (alarms.map Alarm.id)
      id).time = draft.time := by rw [associateAll_eq, store]
  refine ⟨time.trans sown.time_eq, fun {alarm} housed => ?_, fun {other drafted} found new => ?_⟩
  · rw [IsHoused, homeOf?_associateAll]
    split
    · rfl
    · rw [homeOf?_store]
      exact sown.kept housed
  rw [associateAll_eq, store] at found
  simp only [ExtTreeMap.getElem?_insert, LawfulEqOrd.compare_eq_iff_eq] at found
  simp only [getElem?_homes_associateAll]
  split at found
  · rename_i same
    obtain rfl := same
    refine ⟨cluster, listed, nonempty, (Option.some.inj found).symm, fun located member =>
      ⟨fun housed => homeless located member (sown.kept housed), ?_⟩⟩
    rw [if_pos (joins.mpr ⟨located, member, rfl⟩)]
  · obtain ⟨earlier, present, filled, same, belong⟩ := sown.seeded found new
    refine ⟨earlier, present, filled, same, fun located member =>
      ⟨(belong located member).1, ?_⟩⟩
    -- The alarms of a situation that was started earlier belong to it and so do not join.
    rw [if_neg]
    · exact (belong located member).2
    · intro joining
      obtain ⟨joined, inside, equal⟩ := joins.mp joining
      apply homeless joined inside
      rw [equal, IsHoused, homeOf?_of_drafted (belong located member).2]
      rfl

/-- No alarm is shown by two of the situations that are started. -/
theorem eq_of_shown (sown : base.Sown facts draft) {first second : String}
    {one other : SituationDraft} (here : draft.situations[first]? = some one) (begun : one.isNew)
    (there : draft.situations[second]? = some other) (started : other.isNew) {alarm : String}
    (shown : alarm ∈ one.alarms) (again : alarm ∈ other.alarms) : first = second := by
  obtain ⟨cluster, _, _, rfl, belong⟩ := sown.seeded here begun
  obtain ⟨elsewhere, _, _, rfl, belongs⟩ := sown.seeded there started
  obtain ⟨located, member, rfl⟩ := Cluster.mem_seed_iff.mp shown
  obtain ⟨twin, inside, same⟩ := Cluster.mem_seed_iff.mp again
  have home := (belong located member).2
  rw [← same, (belongs twin inside).2] at home
  exact (Option.some.inj (Option.some.inj home)).symm

end Sown
end Draft

namespace Rule

/-- All situations that are started come from clusters, if the ids drawn are not in use. -/
theorem runNewSituation_sown {bench : Workbench} (sown : base.Sown facts bench.draft)
    (fresh : ∀ n, bench.ids.next ≤ n → n < (runNewSituation facts bench).1.ids.next →
      bench.ids.name n ∉ bench.draft.situations)
    (distinct : ∀ m n, bench.ids.next ≤ m → m < n → n < (runNewSituation facts bench).1.ids.next →
      bench.ids.name m ≠ bench.ids.name n) :
    base.Sown facts (runNewSituation facts bench).1.draft := by
  rw [runNewSituation_eq] at fresh distinct ⊢
  generalize chosen : facts.clusters = clusters at fresh distinct ⊢
  replace chosen : ∀ cluster ∈ clusters, cluster ∈ facts.clusters := fun _ member => chosen ▸ member
  induction clusters generalizing bench with
  | nil => exact sown
  | cons first rest ih =>
    have later := fun cluster member => chosen cluster (List.mem_cons_of_mem first member)
    rw [List.foldl_cons] at fresh distinct ⊢
    have next := (foldl_startSituation_ids facts (startSituation facts bench first).1 rest).2
    rcases startSituation_spec facts bench first with ⟨_, same⟩ | ⟨⟨nonempty, homeless⟩, started⟩
    · rw [same] at fresh distinct ⊢
      exact ih sown fresh distinct later
    · rw [started] at fresh distinct next ⊢
      have drawn := Nat.lt_of_succ_le next
      have begun := sown.start (fresh _ (Nat.le_refl _) drawn)
        (chosen first (List.mem_cons_self ..)) nonempty fun located member =>
          Option.not_isSome_iff_eq_none.mpr (homeless located member)
      refine ih begun (fun n lower upper => ?_) (fun m n lower => ?_) later
      · rw [Draft.associateAll_eq, Draft.reviseNew, Draft.store]
        dsimp only
        rw [ExtTreeMap.mem_insert, LawfulEqOrd.compare_eq_iff_eq, not_or]
        exact ⟨distinct _ n (Nat.le_refl _) lower upper, fresh n (Nat.le_of_succ_le lower) upper⟩
      · exact distinct m n (Nat.le_of_succ_le lower)

end Rule

namespace Policy

/-- In the draft that is committed all situations that are started come from clusters of which no
alarm belonged anywhere once feedback had been applied. -/
theorem finalDraft_sown (housed : facts.ledger.Housed) {now : Int} {ids : IdSource}
    (fresh : DrawsFresh facts now ids)
    (distinct : ∀ m n, ids.next ≤ m → m < n →
      n < (evaluate Rule.defaultOrder facts { draft := .new now, ids }).1.ids.next →
        ids.name m ≠ ids.name n) :
    (correctedDraft facts now).Sown facts (finalDraft facts now ids) := by
  have corrected := correctedDraft_resettles housed now
  have merged := mergedDraft_resettles housed now
  rw [DrawsFresh] at fresh
  rw [evaluate_eq_runNewSituation housed] at fresh distinct
  rw [finalDraft, evaluate_eq_runNewSituation housed]
  refine Rule.runNewSituation_sown
    (.of_resettles merged fun _ _ found => (corrected.known_of_new found).2)
    (fun n lower upper member => ?_) distinct
  obtain ⟨_, found⟩ := Collections.exists_getElem? member
  exact fresh n lower upper ((corrected.trans merged).known_of_new found).1

end Policy
end FaultCorrelation
