import FaultCorrelation.Proofs.Policy.Feedback

/-! # Merging and starting situations, step by step

The rule that merges clusters and the rule that starts situations take elementary steps only
(`DraftStep`). The merge rule never fails on a draft that was settled before: every situation that
an alarm belongs to is in the ledger.
-/

namespace FaultCorrelation

open Std

namespace Draft

variable {ledger : Ledger} {scope : DraftScope} {draft : Draft} {id : String}
  {drafted : SituationDraft}

theorem store_store (first second : SituationDraft) :
    (draft.store id first).store id second = draft.store id second := by
  simp only [store, Collections.insert_insert_self]

theorem store_of_underway (underway : draft.situations[id]? = some drafted) :
    draft.store id drafted = draft := by
  rw [store, Collections.insert_of_getElem? underway]

theorem underway_store : (draft.store id drafted).situations[id]? = some drafted := by
  simp [store]

theorem associateAll_store (draft : Draft) (alarms : List String) (home : String) :
    (draft.store id drafted).associateAll alarms home =
      (draft.associateAll alarms home).store id drafted := by
  induction alarms generalizing draft with
  | nil => rfl
  | cons first rest ih => exact ih (draft.associate first home)

/-- Renewing the copies of alarms that are shown. -/
theorem steps_putAll {alarms : List Alarm} (allowed : ∀ alarm ∈ alarms, scope.Shows alarm)
    (underway : draft.situations[id]? = some drafted)
    (shown : ∀ alarm ∈ alarms, alarm.id ∈ drafted.alarms) :
    DraftSteps ledger scope draft (draft.store id (drafted.putAll alarms)) := by
  induction alarms generalizing draft drafted with
  | nil =>
    rw [SituationDraft.putAll_nil, store_of_underway underway]
  | cons first rest ih =>
    have renewed : DraftStep ledger scope draft (draft.store id (drafted.put first)) :=
      .renew first (allowed first (List.mem_cons_self ..)) underway
        (shown first (List.mem_cons_self ..))
    have others : DraftSteps ledger scope (draft.store id (drafted.put first)) _ := ih
      (fun alarm member => allowed alarm (List.mem_cons_of_mem _ member)) underway_store
      fun alarm member => ExtTreeMap.mem_insert.mpr
        (.inr (shown alarm (List.mem_cons_of_mem _ member)))
    rw [store_store] at others
    exact others.head renewed

/-- Renewing copies where there is one. -/
theorem steps_putShown {alarms : List Alarm} (allowed : ∀ alarm ∈ alarms, scope.Shows alarm)
    (underway : draft.situations[id]? = some drafted) :
    DraftSteps ledger scope draft (draft.store id (alarms.foldl (fun under alarm =>
      if alarm.id ∈ under.alarms then under.put alarm else under) drafted)) := by
  induction alarms generalizing draft drafted with
  | nil =>
    rw [List.foldl_nil, store_of_underway underway]
  | cons first rest ih =>
    have later := fun alarm member => allowed alarm (List.mem_cons_of_mem first member)
    rw [List.foldl_cons]
    split
    · rename_i shown
      have others : DraftSteps ledger scope (draft.store id (drafted.put first)) _ :=
        ih later underway_store
      rw [store_store] at others
      exact others.head (.renew first (allowed first (List.mem_cons_self ..)) underway shown)
    · exact ih later underway

/-- Letting alarms join that belong nowhere, or that have joined just before. -/
theorem steps_join {alarms : List Alarm} (allowed : ∀ alarm ∈ alarms, scope.Shows alarm)
    (underway : draft.situations[id]? = some drafted)
    (free : ∀ alarm ∈ alarms, draft.homeOf? ledger alarm.id = none ∨
      alarm.id ∈ drafted.alarms ∧ draft.homes[alarm.id]? = some (some id)) :
    DraftSteps ledger scope draft
      ((draft.associateAll (alarms.map Alarm.id) id).store id (drafted.putAll alarms)) := by
  induction alarms generalizing draft drafted with
  | nil =>
    rw [SituationDraft.putAll_nil]
    change DraftSteps ledger scope draft (draft.store id drafted)
    rw [store_of_underway underway]
  | cons first rest ih =>
    let joined := (draft.associate first.id id).store id (drafted.put first)
    have permitted := allowed first (List.mem_cons_self ..)
    have arrives : DraftStep ledger scope draft joined := by
      rcases free first (List.mem_cons_self ..) with homeless | ⟨shown, home⟩
      · exact .join first permitted underway homeless
      · have same : draft.associate first.id id = draft := by
          rw [associate, Collections.insert_of_getElem? home]
        simp only [joined, same]
        exact .renew first permitted underway shown
    have later := fun alarm member => allowed alarm (List.mem_cons_of_mem first member)
    have others : DraftSteps ledger scope joined _ := ih later underway_store <| by
      intro alarm member
      by_cases same : first.id = alarm.id
      · refine .inr ⟨ExtTreeMap.mem_insert.mpr (.inl (by simp [same])), ?_⟩
        simp [joined, store, associate, same]
      · refine (free alarm (List.mem_cons_of_mem _ member)).imp (fun homeless => ?_)
          fun joins => ⟨ExtTreeMap.mem_insert.mpr (.inr joins.1), ?_⟩
        · rw [homeOf?_store, homeOf?_associate, if_neg same, homeless]
        · simpa [joined, store, associate, ExtTreeMap.getElem?_insert, same] using joins.2
    rw [associateAll_store, store_store] at others
    exact others.head arrives

/-- Absorbing situations that are still there into another. -/
theorem steps_absorb (scope : DraftScope) {others : List Situation} {survivor : Situation}
    (flat : draft.IsFlat)
    (survives : ledger.situations[survivor.id]? = some survivor)
    (target : survivor.id ∉ draft.absorbed)
    (known : ∀ other ∈ others, ledger.situations[other.id]? = some other)
    (live : ∀ other ∈ others, other.id ∉ draft.absorbed)
    (distinct : ((survivor :: others).map Situation.id).Nodup) :
    DraftSteps ledger scope draft
      (others.foldl (fun draft other => draft.absorb other survivor) draft) ∧
    survivor.id ∉ (others.foldl (fun draft other => draft.absorb other survivor) draft).absorbed ∧
    (∀ alarm, (others.foldl (fun draft other => draft.absorb other survivor) draft).homeOf?
        ledger alarm =
      (draft.homeOf? ledger alarm).map fun home =>
        if home ∈ others.map Situation.id then survivor.id else home) ∧
    ∀ id, (others.foldl (fun draft other => draft.absorb other survivor) draft).resolve id =
      if draft.resolve id ∈ others.map Situation.id then survivor.id else draft.resolve id := by
  induction others generalizing draft with
  | nil => exact ⟨.refl, target, fun _ => Option.map_id'.symm, fun id => rfl⟩
  | cons first rest ih =>
    simp only [List.map_cons, List.nodup_cons, List.mem_cons, not_or] at distinct
    obtain ⟨⟨different, others⟩, fresh, distinct⟩ := distinct
    have first_live := live first (List.mem_cons_self ..)
    have absorbed (id : String) : id ∈ (draft.absorb first survivor).absorbed ↔
        first.id = id ∨ id ∈ draft.absorbed := mem_absorbed_absorb target (Ne.symm different)
    obtain ⟨steps, target', homes, resolved⟩ := ih
      (isFlat_absorb flat first survivor)
      (by rw [absorbed]; exact fun either => either.elim (Ne.symm different) target)
      (fun other member => known other (List.mem_cons_of_mem _ member))
      (fun other member => by
        rw [absorbed]
        refine fun either => either.elim (fun same => ?_)
          (live other (List.mem_cons_of_mem _ member))
        exact fresh (same ▸ List.mem_map_of_mem member))
      (by simp only [List.map_cons, List.nodup_cons]; exact ⟨others, distinct⟩)
    refine ⟨steps.head (.absorb first survivor (known first (List.mem_cons_self ..)) survives
      first_live target (Ne.symm different)), target', fun alarm => ?_, fun id => ?_⟩
    · rw [List.foldl_cons, homes, homeOf?_absorb first_live target (Ne.symm different) flat,
        Option.map_map]
      congr 1
      funext home
      by_cases same : home = first.id
      · simp [same]
      · simp [same]
    · rw [List.foldl_cons, resolved, resolve_absorb first_live target (Ne.symm different) flat]
      by_cases same : draft.resolve id = first.id
      · simp [same]
      · simp [same]

end Draft

namespace Rule

variable {facts : Facts} {scope : DraftScope} {draft : Draft} {cluster : Cluster}

theorem mem_mappedOf {alarm : Alarm} {home : String} :
    (alarm, home) ∈ mappedOf facts draft cluster ↔ (∃ located ∈ cluster, located.alarm = alarm) ∧
      draft.homeOf? facts.ledger alarm.id = some home := by
  simp only [mappedOf, List.mem_filterMap, Option.map_eq_some_iff, Prod.mk.injEq]
  constructor
  · rintro ⟨located, member, _, belongs, rfl, rfl⟩
    exact ⟨⟨located, member, rfl⟩, belongs⟩
  · rintro ⟨⟨located, member, rfl⟩, belongs⟩
    exact ⟨located, member, home, belongs, rfl, rfl⟩

theorem mem_unmappedOf {alarm : Alarm} : alarm ∈ unmappedOf facts draft cluster ↔
    (∃ located ∈ cluster, located.alarm = alarm) ∧
      draft.homeOf? facts.ledger alarm.id = none := by
  simp only [unmappedOf, List.mem_map, List.mem_filter, Option.isNone_iff_eq_none]
  constructor
  · rintro ⟨located, ⟨member, homeless⟩, rfl⟩
    exact ⟨⟨located, member, rfl⟩, homeless⟩
  · rintro ⟨⟨located, member, rfl⟩, homeless⟩
    exact ⟨located, ⟨member, homeless⟩, rfl⟩

theorem shownCopy?_eq {home : String} (live : home ∉ draft.absorbed) (alarm : String) :
    facts.shownCopy? draft home alarm = draft.copy? facts.ledger home alarm := by
  rw [Facts.shownCopy?, Draft.copy?, if_neg live]
  cases draft.situations[home]? <;> rfl

/-- The alarms of a situation whose copies are out of date. -/
def staleAt (facts : Facts) (draft : Draft) (mapped : List (Alarm × String)) (home : String) :
    List Alarm :=
  (mapped.filter fun entry => entry.2 == home &&
    (facts.shownCopy? draft entry.2 entry.1.id).any fun copy => copy != entry.1).map Prod.fst

theorem mem_staleAt {mapped : List (Alarm × String)} {home : String} {alarm : Alarm} :
    alarm ∈ staleAt facts draft mapped home ↔ (alarm, home) ∈ mapped ∧
      ∃ copy, facts.shownCopy? draft home alarm.id = some copy ∧ copy ≠ alarm := by
  simp only [staleAt, List.mem_map, List.mem_filter, Bool.and_eq_true, beq_iff_eq,
    Option.any_eq_true, bne_iff_ne, Prod.exists]
  constructor
  · rintro ⟨_, _, ⟨member, rfl, stale⟩, rfl⟩
    exact ⟨member, stale⟩
  · rintro ⟨member, stale⟩
    exact ⟨alarm, home, ⟨member, rfl, stale⟩, rfl⟩

theorem getElem?_staleOf (mapped : List (Alarm × String)) (home : String) :
    (staleOf facts draft mapped)[home]? =
      if staleAt facts draft mapped home = [] then none
      else some (staleAt facts draft mapped home) := by
  suffices induct : ∀ stale : ExtTreeMap String (List Alarm),
      (mapped.foldl (fun stale (entry : Alarm × String) =>
        if (facts.shownCopy? draft entry.2 entry.1.id).any fun copy => copy != entry.1 then
          stale.alter entry.2 fun alarms => some (alarms.getD [] ++ [entry.1])
        else stale) stale)[home]? =
      if staleAt facts draft mapped home = [] then stale[home]?
      else some (stale[home]?.getD [] ++ staleAt facts draft mapped home) by
    simpa [staleOf] using induct ∅
  induction mapped with
  | nil => intro stale; rfl
  | cons first rest ih =>
    obtain ⟨alarm, other⟩ := first
    intro stale
    rw [List.foldl_cons, ih]
    have cons : staleAt facts draft ((alarm, other) :: rest) home =
        (if other == home && (facts.shownCopy? draft other alarm.id).any fun copy => copy != alarm
          then [alarm] else []) ++ staleAt facts draft rest home := by
      rw [staleAt, List.filter_cons]
      split <;> rfl
    rw [cons]
    by_cases outdated : (facts.shownCopy? draft other alarm.id).any fun copy => copy != alarm
    · by_cases same : other = home
      · subst same
        by_cases none : staleAt facts draft rest other = [] <;> simp [outdated, none]
      · simp [outdated, ExtTreeMap.getElem?_alter, same]
    · simp [outdated]

/-- A refreshed situation is opened, and copies that it shows are renewed. -/
theorem refreshSituation_steps (orderly : facts.ledger.Orderly) {home : String}
    {alarms : List Alarm} (allowed : ∀ alarm ∈ alarms, scope.Shows alarm)
    (live : home ∉ draft.absorbed)
    (shown : ∀ alarm ∈ alarms, (draft.copy? facts.ledger home alarm.id).isSome) :
    DraftSteps facts.ledger scope draft (refreshSituation facts draft home alarms).1 ∧
      (refreshSituation facts draft home alarms).1.absorbed = draft.absorbed ∧
      ∀ id alarm,
        ((refreshSituation facts draft home alarms).1.copy? facts.ledger id alarm).isSome =
          (draft.copy? facts.ledger id alarm).isSome := by
  rw [refreshSituation]
  split
  · exact ⟨.refl, rfl, fun _ _ => rfl⟩
  rename_i situation known
  dsimp only
  split
  · exact ⟨.refl, rfl, fun _ _ => rfl⟩
  have named := orderly.id_eq known
  subst named
  have opened (alarm : String) := Draft.getElem?_opened known live alarm
  refine ⟨?_, rfl, fun id alarm => ?_⟩
  · have reopened : DraftStep facts.ledger scope draft _ := .reopen situation known live
    have renewed : DraftSteps facts.ledger scope
        (draft.store situation.id (draft.opened situation)) _ :=
      Draft.steps_putAll allowed Draft.underway_store fun alarm member => by
        rw [ExtTreeMap.mem_iff_isSome_getElem?, opened]
        exact shown alarm member
    rw [Draft.store_store] at renewed
    exact renewed.head reopened
  · rw [Draft.revise, Draft.copy?_store live]
    split
    · rename_i same
      subst same
      apply Bool.eq_iff_iff.mpr
      rw [SituationDraft.isSome_getElem?_putAll, opened]
      refine ⟨fun either => either.elim (fun before => before) ?_, .inl⟩
      rintro ⟨other, member, rfl⟩
      exact shown other member
    · rfl

theorem refreshCopies_eq (facts : Facts) (draft : Draft) (mapped : List (Alarm × String)) :
    (refreshCopies facts draft mapped).1 = (staleOf facts draft mapped).toList.foldl
      (fun draft entry => (refreshSituation facts draft entry.1 entry.2).1) draft := by
  rw [refreshCopies, ExtTreeMap.foldl_eq_foldl_toList]
  exact Collections.foldl_counted
    (fun draft (entry : String × List Alarm) => (refreshSituation facts draft entry.1 entry.2).1)
    (fun draft entry => (refreshSituation facts draft entry.1 entry.2).2.toNat) _ draft 0

theorem refreshCopies_steps (scope : DraftScope) (orderly : facts.ledger.Orderly)
    (coherent : draft.Coherent facts.ledger)
    (allowed : ∀ located ∈ cluster, scope.Shows located.alarm) :
    DraftSteps facts.ledger scope draft
      (refreshCopies facts draft (mappedOf facts draft cluster)).1 := by
  rw [refreshCopies_eq]
  have stale : ∀ entry ∈ (staleOf facts draft (mappedOf facts draft cluster)).toList,
      entry.1 ∉ draft.absorbed ∧
        ∀ alarm ∈ entry.2, scope.Shows alarm ∧
          (draft.copy? facts.ledger entry.1 alarm.id).isSome := by
    rintro ⟨home, alarms⟩ member
    rw [ExtTreeMap.mem_toList_iff_getElem?_eq_some, getElem?_staleOf] at member
    split at member
    · contradiction
    · rename_i nonempty
      obtain ⟨first, present⟩ := List.exists_mem_of_ne_nil _ nonempty
      have live := coherent.live_of_homeOf? orderly
        (mem_mappedOf.mp (mem_staleAt.mp present).1).2
      refine ⟨live, fun alarm listed => ?_⟩
      rw [← Option.some.inj member] at listed
      obtain ⟨mapped, copy, found, _⟩ := mem_staleAt.mp listed
      obtain ⟨⟨located, present, rfl⟩, _⟩ := mem_mappedOf.mp mapped
      rw [← shownCopy?_eq live, found, Option.isSome_some]
      exact ⟨allowed located present, rfl⟩
  generalize (staleOf facts draft (mappedOf facts draft cluster)).toList = entries at stale
  induction entries generalizing draft with
  | nil => exact .refl
  | cons first rest ih =>
    obtain ⟨live, shown⟩ := stale first (List.mem_cons_self ..)
    obtain ⟨steps, absorbed, copies⟩ := refreshSituation_steps orderly
      (fun alarm listed => (shown alarm listed).1) live fun alarm listed => (shown alarm listed).2
    refine steps.trans (ih (coherent.steps orderly steps) fun entry member => ?_)
    obtain ⟨live, shown⟩ := stale entry (List.mem_cons_of_mem _ member)
    refine ⟨absorbed ▸ live, fun alarm listed => ?_⟩
    rw [copies]
    exact shown alarm listed

theorem lookUpAll_ok {ledger : Ledger} (housed : ledger.Housed) (ids : List String)
    (known : ∀ id ∈ ids, id ∈ ledger.situations) :
    ∃ situations, lookUpAll ledger ids = .ok situations ∧ situations.map Situation.id = ids ∧
      ∀ situation ∈ situations, ledger.situations[situation.id]? = some situation := by
  induction ids with
  | nil => exact ⟨[], rfl, rfl, fun _ member => nomatch member⟩
  | cons first rest ih =>
    obtain ⟨situation, found⟩ := Collections.exists_getElem? (known first (List.mem_cons_self ..))
    obtain ⟨others, looked, ids, present⟩ :=
      ih fun id member => known id (List.mem_cons_of_mem _ member)
    have named := housed.id_eq found
    refine ⟨situation :: others, ?_, by rw [List.map_cons, named, ids], ?_⟩
    · rw [lookUpAll, found, looked]
      rfl
    · intro other member
      rcases List.mem_cons.mp member with rfl | member
      · rw [named, found]
      · exact present other member

theorem mem_referenced (id : String) :
    id ∈ (ExtTreeSet.ofList ((mappedOf facts draft cluster).map Prod.snd)).toList ↔
      ∃ located ∈ cluster, draft.homeOf? facts.ledger located.alarm.id = some id := by
  simp only [ExtTreeSet.mem_toList, ExtTreeSet.mem_ofList, List.contains_iff_mem, List.mem_map,
    Prod.exists, mem_mappedOf]
  constructor
  · rintro ⟨_, _, ⟨⟨located, member, rfl⟩, home⟩, rfl⟩
    exact ⟨located, member, home⟩
  · rintro ⟨located, member, home⟩
    exact ⟨_, id, ⟨⟨located, member, rfl⟩, home⟩, rfl⟩

theorem older_eq : older = fun a b =>
    (compareLex (compareOn Situation.created) (compareOn Situation.id) a b).isLE := rfl

/-- Situations that a cluster with a new alarm touches, the oldest of them picked to survive. -/
structure Touched (facts : Facts) (draft : Draft) (cluster : Cluster) (survivor : Situation)
    (others : List Situation) : Prop where
  known : ∀ situation ∈ survivor :: others,
    facts.ledger.situations[situation.id]? = some situation
  live : ∀ situation ∈ survivor :: others, situation.id ∉ draft.absorbed
  distinct : ((survivor :: others).map Situation.id).Nodup
  mem_iff (id : String) : id ∈ (survivor :: others).map Situation.id ↔
    ∃ located ∈ cluster, draft.homeOf? facts.ledger located.alarm.id = some id
  oldest : ∀ other ∈ others, older survivor other
  incomplete : unmappedOf facts draft cluster ≠ []

/-- Absorbing the other situations into the survivor. -/
theorem Touched.absorbing {survivor : Situation} {others : List Situation}
    (touched : Touched facts draft cluster survivor others) (scope : DraftScope)
    (flat : draft.IsFlat) :
    let merged := others.foldl (fun draft other => draft.absorb other survivor) draft
    DraftSteps facts.ledger scope draft merged ∧ survivor.id ∉ merged.absorbed ∧
      (∀ alarm, merged.homeOf? facts.ledger alarm = (draft.homeOf? facts.ledger alarm).map
        fun home => if home ∈ others.map Situation.id then survivor.id else home) ∧
      ∀ id, merged.resolve id =
        if draft.resolve id ∈ others.map Situation.id then survivor.id else draft.resolve id :=
  Draft.steps_absorb scope flat (touched.known survivor (List.mem_cons_self ..))
    (touched.live survivor (List.mem_cons_self ..))
    (fun other member => touched.known other (List.mem_cons_of_mem _ member))
    (fun other member => touched.live other (List.mem_cons_of_mem _ member)) touched.distinct

/-- Renew the copies that a situation shows of some alarms. -/
def renewShown (draft : Draft) (situation : Situation) (alarms : List Alarm) : Draft :=
  draft.revise situation fun under => alarms.foldl (fun under alarm =>
    if alarm.id ∈ under.alarms then under.put alarm else under) under

/-- Folding absorbs situations, then renews copies of the alarms that belonged to them, and then
lets the others join. -/
theorem Touched.stages {survivor : Situation} {others : List Situation}
    (touched : Touched facts draft cluster survivor others) (scope : DraftScope)
    (coherent : draft.Coherent facts.ledger)
    (allowed : ∀ located ∈ cluster, scope.Shows located.alarm) :
    let mapped := (mappedOf facts draft cluster).map Prod.fst
    ∃ merged : Draft, DraftSteps facts.ledger scope draft merged ∧
      survivor.id ∉ merged.absorbed ∧
      (∀ alarm, merged.homeOf? facts.ledger alarm = (draft.homeOf? facts.ledger alarm).map
        fun home => if home ∈ others.map Situation.id then survivor.id else home) ∧
      DraftSteps facts.ledger scope merged (renewShown merged survivor mapped) ∧
      DraftSteps facts.ledger scope (renewShown merged survivor mapped)
        (foldInto draft survivor others mapped (unmappedOf facts draft cluster)) := by
  have survives := touched.known survivor (List.mem_cons_self ..)
  obtain ⟨absorbed, target, homes, _⟩ := touched.absorbing scope coherent.flat
  refine ⟨_, absorbed, target, homes, ?_⟩
  rw [foldInto]
  generalize others.foldl (fun draft other => draft.absorb other survivor) draft = merged
    at target homes
  have reopened : DraftStep facts.ledger scope merged _ := .reopen survivor survives target
  have renewing : ∀ alarm ∈ (mappedOf facts draft cluster).map Prod.fst, scope.Shows alarm := by
    intro alarm member
    obtain ⟨⟨_, home⟩, listed, rfl⟩ := List.mem_map.mp member
    obtain ⟨⟨located, present, rfl⟩, _⟩ := mem_mappedOf.mp listed
    exact allowed located present
  have renewed : DraftSteps facts.ledger scope
      (merged.store survivor.id (merged.opened survivor)) _ :=
    Draft.steps_putShown renewing Draft.underway_store
  rw [Draft.store_store] at renewed
  refine ⟨renewed.head reopened, ?_⟩
  rw [renewShown, Draft.revise, Draft.revise]
  generalize List.foldl _ (merged.opened survivor) _ = drafted
  have joining : ∀ alarm ∈ unmappedOf facts draft cluster, scope.Shows alarm := by
    intro alarm member
    obtain ⟨⟨located, present, rfl⟩, _⟩ := mem_unmappedOf.mp member
    exact allowed located present
  have joined : DraftSteps facts.ledger scope (merged.store survivor.id drafted) _ :=
    Draft.steps_join joining Draft.underway_store fun alarm member => .inl (by
      rw [Draft.homeOf?_store, homes, (mem_unmappedOf.mp member).2, Option.map_none])
  rw [Draft.associateAll_store, Draft.store_store] at joined
  rw [Draft.associateAll_store]
  exact joined

/-- The merging of a cluster succeeds, in one of three ways, if its alarms belong to situations that
were not absorbed, and to situations in the ledger where some alarm belongs nowhere. -/
theorem mergeCluster_of_placed (housed : facts.ledger.Housed) {cluster : Cluster}
    (placed : ∀ located ∈ cluster, ∀ home,
      draft.homeOf? facts.ledger located.alarm.id = some home → home ∉ draft.absorbed ∧
        (unmappedOf facts draft cluster ≠ [] → home ∈ facts.ledger.situations)) :
    ∃ next count, mergeCluster facts draft cluster = .ok (next, count) ∧
      (mappedOf facts draft cluster = [] ∧ next = draft ∨
        unmappedOf facts draft cluster = [] ∧
          next = (refreshCopies facts draft (mappedOf facts draft cluster)).1 ∨
        ∃ survivor others, Touched facts draft cluster survivor others ∧
          next = foldInto draft survivor others ((mappedOf facts draft cluster).map Prod.fst)
            (unmappedOf facts draft cluster)) := by
  simp only [mergeCluster, List.isEmpty_iff]
  by_cases untouched : mappedOf facts draft cluster = []
  · exact ⟨draft, 0, by rw [if_pos untouched], .inl ⟨untouched, rfl⟩⟩
  rw [if_neg untouched]
  by_cases complete : unmappedOf facts draft cluster = []
  · exact ⟨_, _, by rw [if_pos complete], .inr (.inl ⟨complete, rfl⟩)⟩
  rw [if_neg complete]
  obtain ⟨situations, looked, ids, known⟩ := lookUpAll_ok housed
      (ExtTreeSet.ofList ((mappedOf facts draft cluster).map Prod.snd)).toList <| by
    intro id member
    obtain ⟨located, listed, home⟩ := (mem_referenced id).mp member
    exact (placed located listed id home).2 complete
  have sorted := Sorting.sortBy_perm older situations
  have ordered : (Sorting.sortBy older situations).Pairwise fun a b => older a b := by
    rw [older_eq]
    exact Sorting.pairwise_sortBy_isLE situations
  rw [looked]
  dsimp only
  cases arranged : Sorting.sortBy older situations with
  | nil =>
    obtain ⟨⟨alarm, home⟩, member⟩ := List.exists_mem_of_ne_nil _ untouched
    obtain ⟨⟨located, present, rfl⟩, belongs⟩ := mem_mappedOf.mp member
    have listed := (mem_referenced home).mpr ⟨located, present, belongs⟩
    rw [arranged] at sorted
    rw [← ids, ← sorted.nil_eq] at listed
    contradiction
  | cons survivor others =>
    rw [arranged] at sorted ordered
    have listed (id : String) : id ∈ (survivor :: others).map Situation.id ↔
        ∃ located ∈ cluster, draft.homeOf? facts.ledger located.alarm.id = some id := by
      rw [(sorted.map Situation.id).mem_iff, ids, mem_referenced]
    refine ⟨_, _, rfl, .inr (.inr ⟨survivor, others, ⟨fun situation member =>
      known situation (sorted.mem_iff.mp member), fun situation member => ?_, ?_, listed,
        (List.pairwise_cons.mp ordered).1, complete⟩, rfl⟩)⟩
    · obtain ⟨located, present, home⟩ := (listed situation.id).mp (List.mem_map_of_mem member)
      exact (placed located present situation.id home).1
    · rw [(sorted.map Situation.id).nodup_iff, ids]
      exact ExtTreeSet.distinct_toList.imp fun different same =>
        different (LawfulEqOrd.compare_eq_iff_eq.mpr same)

/-- On a settled draft the merging of a cluster succeeds, in one of three ways. -/
theorem mergeCluster_cases (orderly : facts.ledger.Orderly) (coherent : draft.Coherent facts.ledger)
    (settled : draft.IsSettled facts.ledger) (cluster : Cluster) :
    ∃ next count, mergeCluster facts draft cluster = .ok (next, count) ∧
      (mappedOf facts draft cluster = [] ∧ next = draft ∨
        unmappedOf facts draft cluster = [] ∧
          next = (refreshCopies facts draft (mappedOf facts draft cluster)).1 ∨
        ∃ survivor others, Touched facts draft cluster survivor others ∧
          next = foldInto draft survivor others ((mappedOf facts draft cluster).map Prod.fst)
            (unmappedOf facts draft cluster)) := by
  refine mergeCluster_of_placed orderly.toHoused fun located _ home belongs => ?_
  have there := Draft.hasSituation_iff.mp
    (coherent.hasSituation_of_homeOf? orderly belongs)
  exact ⟨there.1, fun _ => there.2.elim (settled home) fun present => present⟩

/-- In each of the three ways the merging of a cluster is done step by step. -/
theorem steps_of_merged (scope : DraftScope) (orderly : facts.ledger.Orderly)
    (coherent : draft.Coherent facts.ledger)
    (allowed : ∀ located ∈ cluster, scope.Shows located.alarm) {next : Draft}
    (ways : mappedOf facts draft cluster = [] ∧ next = draft ∨
      unmappedOf facts draft cluster = [] ∧
        next = (refreshCopies facts draft (mappedOf facts draft cluster)).1 ∨
      ∃ survivor others, Touched facts draft cluster survivor others ∧
        next = foldInto draft survivor others ((mappedOf facts draft cluster).map Prod.fst)
          (unmappedOf facts draft cluster)) : DraftSteps facts.ledger scope draft next := by
  obtain ⟨_, rfl⟩ | ⟨_, rfl⟩ | ⟨survivor, others, touched, rfl⟩ := ways
  · exact .refl
  · exact refreshCopies_steps scope orderly coherent allowed
  · obtain ⟨_, absorbed, _, _, renewed, joined⟩ := touched.stages scope coherent allowed
    exact absorbed.trans (renewed.trans joined)

theorem mergeCluster_steps (scope : DraftScope) (orderly : facts.ledger.Orderly)
    (coherent : draft.Coherent facts.ledger) (settled : draft.IsSettled facts.ledger)
    (allowed : ∀ located ∈ cluster, scope.Shows located.alarm) :
    ∃ next count, mergeCluster facts draft cluster = .ok (next, count) ∧
      DraftSteps facts.ledger scope draft next := by
  obtain ⟨next, count, merged, ways⟩ := mergeCluster_cases orderly coherent settled cluster
  exact ⟨next, count, merged, steps_of_merged scope orderly coherent allowed ways⟩

/-- On a settled draft the merge rule succeeds, step by step. -/
theorem runMerge_steps (scope : DraftScope) (orderly : facts.ledger.Orderly)
    (coherent : draft.Coherent facts.ledger) (settled : draft.IsSettled facts.ledger)
    (nothing : ∀ id, ¬ scope.Begins id) (count : Nat)
    {clusters : List Cluster}
    (allowed : ∀ cluster ∈ clusters, ∀ located ∈ cluster, scope.Shows located.alarm) :
    ∃ next total, runMerge facts draft count clusters = (.ok total, next) ∧
      DraftSteps facts.ledger scope draft next := by
  induction clusters generalizing draft count with
  | nil => exact ⟨draft, count, rfl, .refl⟩
  | cons first rest ih =>
    obtain ⟨merged, changes, equal, steps⟩ :=
      mergeCluster_steps scope orderly coherent settled (allowed first (List.mem_cons_self ..))
    obtain ⟨next, total, ran, others⟩ := ih (coherent.steps orderly steps)
      (settled.steps nothing steps) (count + changes)
      fun cluster member => allowed cluster (List.mem_cons_of_mem _ member)
    refine ⟨next, total, ?_, steps.trans others⟩
    rw [runMerge, equal]
    exact ran

end Rule
end FaultCorrelation
