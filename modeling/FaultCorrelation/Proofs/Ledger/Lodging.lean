import FaultCorrelation.Proofs.Ledger.Commitment

/-! # Where drafts send alarms

With a policy whose rules come in any order, and with ids that may be in use already, a draft need
not be coherent. What is left is `Draft.Lodged`: drafts of situations stand under their own ids,
absorbed situations have gone to situations in the ledger that are still there, and alarms belong to
situations that are being drafted or are in the ledger. That is enough for the ledger to be housed
after the commit.

`Draft.Resettles` compares a draft with an earlier one: no alarm that belonged somewhere belongs
nowhere, alarms have only been sent to situations in the ledger, and no situation has been started.
-/

namespace FaultCorrelation

open Std

variable {ledger : Ledger} {draft next last : Draft}

namespace SituationDraft

/-- Whether a change of a drafted situation is about the alarms it shows only. -/
def IsOfAlarms (change : SituationDraft → SituationDraft) : Prop :=
  ∀ drafted, ∃ alarms, change drafted = { drafted with alarms }

theorem isOfAlarms_put (alarm : Alarm) : IsOfAlarms fun under => under.put alarm :=
  fun _ => ⟨_, rfl⟩

theorem isOfAlarms_erase (alarm : String) : IsOfAlarms fun under => under.erase alarm :=
  fun _ => ⟨_, rfl⟩

theorem IsOfAlarms.comp {first second : SituationDraft → SituationDraft}
    (one : IsOfAlarms first) (other : IsOfAlarms second) :
    IsOfAlarms fun under => second (first under) := by
  intro drafted
  obtain ⟨alarms, same⟩ := one drafted
  obtain ⟨others, again⟩ := other (first drafted)
  exact ⟨others, again.trans (by rw [same])⟩

theorem isOfAlarms_foldl {step : SituationDraft → Alarm → SituationDraft}
    (each : ∀ alarm, IsOfAlarms fun under => step under alarm) (alarms : List Alarm) :
    IsOfAlarms fun under => alarms.foldl step under := by
  induction alarms with
  | nil => exact fun drafted => ⟨drafted.alarms, rfl⟩
  | cons first rest ih => exact (each first).comp ih

theorem isOfAlarms_putAll (alarms : List Alarm) : IsOfAlarms fun under => under.putAll alarms :=
  isOfAlarms_foldl isOfAlarms_put alarms

end SituationDraft

namespace Draft

/-- What every draft is like, whatever the rules and the ids they draw. -/
structure Lodged (ledger : Ledger) (draft : Draft) : Prop where
  id_eq {id : String} {drafted : SituationDraft} :
    draft.situations[id]? = some drafted → drafted.id = id
  absorbed_known {id target : String} : draft.absorbed[id]? = some target →
    target ∈ ledger.situations ∧ target ∉ draft.absorbed
  home_known {alarm : String} {home : Option String} : draft.homes[alarm]? = some home →
    ∃ id, home = some id ∧
      (id ∈ draft.situations ∨ id ∈ ledger.situations ∧ id ∉ draft.absorbed)

/-- Whether a drafted situation was drafted before, or is one of the ledger that is taken up. -/
def Drafts (ledger : Ledger) (draft : Draft) (id : String) (drafted : SituationDraft) : Prop :=
  (∃ before, draft.situations[id]? = some before ∧ drafted.isNew = before.isNew) ∨
    id ∈ ledger.situations ∧ drafted.isNew = false

/-- What becomes of a draft whose alarms are only ever sent to situations in the ledger, and in
which no situation is started. -/
structure Resettles (ledger : Ledger) (draft next : Draft) : Prop where
  lodged : next.Lodged ledger
  time_eq : next.time = draft.time
  drafts {id : String} {drafted : SituationDraft} :
    next.situations[id]? = some drafted → draft.Drafts ledger id drafted
  kept {alarm : String} :
    (draft.homeOf? ledger alarm).isSome → (next.homeOf? ledger alarm).isSome
  moved {alarm home : String} : next.homeOf? ledger alarm = some home →
    draft.homeOf? ledger alarm = some home ∨ home ∈ ledger.situations

theorem lodged_new (ledger : Ledger) (time : Int) : (new time).Lodged ledger where
  id_eq found := by simp [new] at found
  absorbed_known found := by simp [new] at found
  home_known found := by simp [new] at found

theorem Resettles.trans (first : Resettles ledger draft next)
    (second : Resettles ledger next last) : Resettles ledger draft last where
  lodged := second.lodged
  time_eq := second.time_eq.trans first.time_eq
  drafts found := by
    obtain ⟨between, present, same⟩ | known := second.drafts found
    · obtain ⟨before, drafted, again⟩ | ⟨known, old⟩ := first.drafts present
      · exact .inl ⟨before, drafted, same.trans again⟩
      · exact .inr ⟨known, same.trans old⟩
    · exact .inr known
  kept somewhere := second.kept (first.kept somewhere)
  moved belongs := (second.moved belongs).elim first.moved .inr

/-- Nothing is under way in a new draft, so that all drafts are of situations in the ledger. -/
theorem Resettles.known_of_new {time : Int} (settled : Resettles ledger (.new time) draft)
    {id : String} {drafted : SituationDraft} (found : draft.situations[id]? = some drafted) :
    id ∈ ledger.situations ∧ drafted.isNew = false := by
  refine (settled.drafts found).resolve_left ?_
  rintro ⟨_, present, _⟩
  simp [new] at present

/-- A fold of changes that resettle alarms. -/
theorem resettles_foldl {α : Type} {step : Draft → α → Draft} {items : List α}
    (each : ∀ draft, draft.Lodged ledger → ∀ item ∈ items, Resettles ledger draft (step draft item))
    (lodged : draft.Lodged ledger) : Resettles ledger draft (items.foldl step draft) := by
  refine List.foldlRecOn items step (motive := fun (next : Draft) => Resettles ledger draft next)
    ⟨lodged, rfl, fun found => .inl ⟨_, found, rfl⟩, fun somewhere => somewhere, .inl⟩
    fun next settled item member => ?_
  exact settled.trans (each next settled.lodged item member)

namespace Lodged

variable (lodged : draft.Lodged ledger)
include lodged

theorem flat : draft.IsFlat := fun _ _ found => (lodged.absorbed_known found).2

theorem isNamed : draft.IsNamed := fun _ _ => lodged.id_eq

/-- An alarm belongs to a situation that was not absorbed. -/
theorem live_of_homeOf? {alarm home : String} (belongs : draft.homeOf? ledger alarm = some home) :
    home ∉ draft.absorbed := by
  obtain ⟨previous, _, rfl⟩ := Option.map_eq_some_iff.mp belongs
  exact resolve_not_mem lodged.flat previous

/-- Changes that are not about situations and memberships. -/
theorem congr (time : next.time = draft.time) (situations : next.situations = draft.situations)
    (homes : next.homes = draft.homes) (absorbed : next.absorbed = draft.absorbed) :
    Resettles ledger draft next where
  time_eq := time
  drafts found := .inl ⟨_, situations ▸ found, rfl⟩
  lodged := by
    refine ⟨?_, ?_, ?_⟩
    · rw [situations]
      exact lodged.id_eq
    · rw [absorbed]
      exact lodged.absorbed_known
    · rw [situations, homes, absorbed]
      exact lodged.home_known
  kept somewhere := homeOf?_congr homes absorbed _ ▸ somewhere
  moved belongs := .inl (homeOf?_congr homes absorbed _ ▸ belongs)

theorem refl : Resettles ledger draft draft := lodged.congr rfl rfl rfl rfl

theorem release (alarm : String) : Resettles ledger draft (draft.release alarm) :=
  lodged.congr rfl rfl rfl rfl

theorem exclude (situation alarm : String) :
    Resettles ledger draft (draft.exclude situation alarm) :=
  lodged.congr rfl rfl rfl rfl

theorem readmit (situation alarm : String) :
    Resettles ledger draft (draft.readmit situation alarm) :=
  lodged.congr rfl rfl rfl rfl

theorem lodged_store {id : String} {drafted : SituationDraft} (named : drafted.id = id) :
    (draft.store id drafted).Lodged ledger := by
  have stored : (draft.store id drafted).IsNamed := lodged.isNamed.store named
  refine ⟨stored _ _, lodged.absorbed_known, fun present => ?_⟩
  obtain ⟨home, rfl, there⟩ := lodged.home_known present
  exact ⟨home, rfl, there.imp_left fun member => ExtTreeMap.mem_insert.mpr (.inr member)⟩

omit lodged in
/-- What is opened was drafted before, or is taken up from the ledger. -/
theorem drafts_opened {situation : Situation} (known : situation.id ∈ ledger.situations) :
    draft.Drafts ledger situation.id (draft.opened situation) := by
  cases found : draft.situations[situation.id]? with
  | some drafted =>
    rw [opened_of_getElem? found]
    exact .inl ⟨drafted, found, rfl⟩
  | none =>
    rw [opened_of_not_mem (by simpa using found)]
    exact .inr ⟨known, rfl⟩

/-- Changing the alarms that a situation of the ledger shows. -/
theorem revise {situation : Situation} (known : situation.id ∈ ledger.situations)
    {change : SituationDraft → SituationDraft} (ofAlarms : SituationDraft.IsOfAlarms change) :
    Resettles ledger draft (draft.revise situation change) := by
  obtain ⟨alarms, same⟩ := ofAlarms (draft.opened situation)
  rw [Draft.revise, same]
  refine ⟨lodged.lodged_store (lodged.isNamed.opened_id situation), rfl,
    fun {id drafted} found => ?_, fun somewhere => by rwa [homeOf?_store],
    fun belongs => .inl (by rwa [homeOf?_store] at belongs)⟩
  simp only [Draft.store, ExtTreeMap.getElem?_insert, LawfulEqOrd.compare_eq_iff_eq] at found
  split at found
  · rename_i same
    obtain rfl := same
    rw [← Option.some.inj found]
    exact drafts_opened known
  · exact .inl ⟨drafted, found, rfl⟩

theorem lodged_associate {home : String} (alarm : String)
    (there : home ∈ draft.situations ∨ home ∈ ledger.situations ∧ home ∉ draft.absorbed) :
    (draft.associate alarm home).Lodged ledger where
  id_eq := lodged.id_eq
  absorbed_known := lodged.absorbed_known
  home_known present := by
    simp only [Draft.associate, ExtTreeMap.getElem?_insert,
      LawfulEqOrd.compare_eq_iff_eq] at present
    split at present
    · exact ⟨home, (Option.some.inj present).symm, there⟩
    · exact lodged.home_known present

theorem lodged_associateAll {home : String} (alarms : List String)
    (there : home ∈ draft.situations ∨ home ∈ ledger.situations ∧ home ∉ draft.absorbed) :
    (draft.associateAll alarms home).Lodged ledger := by
  induction alarms generalizing draft with
  | nil => exact lodged
  | cons first rest ih => exact ih (lodged.lodged_associate first there) there

/-- Making an alarm belong to a situation in the ledger that was not absorbed. -/
theorem associate {home : String} (alarm : String) (known : home ∈ ledger.situations)
    (live : home ∉ draft.absorbed) : Resettles ledger draft (draft.associate alarm home) where
  lodged := lodged.lodged_associate alarm (.inr ⟨known, live⟩)
  time_eq := rfl
  drafts found := .inl ⟨_, found, rfl⟩
  kept somewhere := by
    rw [homeOf?_associate]
    split
    · rfl
    · exact somewhere
  moved belongs := by
    rw [homeOf?_associate] at belongs
    split at belongs
    · rw [resolve_of_not_mem live] at belongs
      exact .inr (Option.some.inj belongs ▸ known)
    · exact .inl belongs

theorem associateAll {home : String} (alarms : List String) (known : home ∈ ledger.situations)
    (live : home ∉ draft.absorbed) :
    Resettles ledger draft (draft.associateAll alarms home) := by
  induction alarms generalizing draft with
  | nil => exact lodged.refl
  | cons first rest ih =>
    have settled := lodged.associate first known live
    exact settled.trans (ih settled.lodged live)

theorem absorb {other survivor : Situation} (known : survivor.id ∈ ledger.situations)
    (live : other.id ∉ draft.absorbed) (target : survivor.id ∉ draft.absorbed)
    (distinct : other.id ≠ survivor.id) : Resettles ledger draft (draft.absorb other survivor) where
  lodged := by
    have survives : survivor.id ∉ (draft.absorb other survivor).absorbed := by
      rw [mem_absorbed_absorb target distinct]
      exact fun absorbed => absorbed.elim distinct target
    refine ⟨fun {id drafted} found => ?_, fun {id home} found => ?_, fun {alarm home} found => ?_⟩
    · exact lodged.isNamed.absorb other survivor _ _ found
    · rw [getElem?_absorbed_absorb target distinct] at found
      split at found
      · rw [← Option.some.inj found]
        exact ⟨known, survives⟩
      · obtain ⟨previous, present, rfl⟩ := Option.map_eq_some_iff.mp found
        split
        · exact ⟨known, survives⟩
        · rename_i different
          obtain ⟨there, kept⟩ := lodged.absorbed_known present
          refine ⟨there, ?_⟩
          rw [mem_absorbed_absorb target distinct]
          exact fun absorbed => absorbed.elim (Ne.symm different) kept
    · rw [getElem?_homes_absorb target distinct] at found
      obtain ⟨previous, present, rfl⟩ := Option.map_eq_some_iff.mp found
      obtain ⟨id, rfl, there⟩ := lodged.home_known present
      simp only [Option.some.injEq]
      split
      · exact ⟨survivor.id, rfl, .inr ⟨known, survives⟩⟩
      · rename_i different
        refine ⟨id, rfl, ?_⟩
        rw [mem_situations_absorb target distinct, mem_absorbed_absorb target distinct]
        exact there.imp (fun underway => .inr ⟨Ne.symm different, underway⟩)
          fun kept => ⟨kept.1, fun absorbed => absorbed.elim (Ne.symm different) kept.2⟩
  time_eq := by
    rw [absorb_eq target distinct]
    rfl
  drafts {id drafted} found := by
    rw [getElem?_situations_absorb target distinct] at found
    split at found
    · rename_i same
      obtain rfl := same
      obtain ⟨alarms, moved⟩ : ∃ alarms, (draft.opened survivor).putAll (draft.shown other).values =
          { draft.opened survivor with alarms } := SituationDraft.isOfAlarms_putAll _ _
      rw [← Option.some.inj found, moved]
      exact drafts_opened known
    · split at found
      · contradiction
      · exact .inl ⟨drafted, found, rfl⟩
  kept somewhere := by
    rw [homeOf?_absorb live target distinct lodged.flat, Option.isSome_map]
    exact somewhere
  moved belongs := by
    rw [homeOf?_absorb live target distinct lodged.flat] at belongs
    obtain ⟨previous, before, rfl⟩ := Option.map_eq_some_iff.mp belongs
    split
    · exact .inr known
    · exact .inl before

/-- Absorbing several situations into one. -/
theorem absorbAll {others : List Situation} {survivor : Situation}
    (known : survivor.id ∈ ledger.situations) (target : survivor.id ∉ draft.absorbed)
    (live : ∀ other ∈ others, other.id ∉ draft.absorbed)
    (distinct : ((survivor :: others).map Situation.id).Nodup) :
    Resettles ledger draft
        (others.foldl (fun draft other => draft.absorb other survivor) draft) ∧
      survivor.id ∉
        (others.foldl (fun draft other => draft.absorb other survivor) draft).absorbed := by
  induction others generalizing draft with
  | nil => exact ⟨lodged.refl, target⟩
  | cons first rest ih =>
    simp only [List.map_cons, List.nodup_cons, List.mem_cons, not_or] at distinct
    obtain ⟨⟨different, apart⟩, fresh, distinct⟩ := distinct
    have settled := lodged.absorb known (live first (List.mem_cons_self ..)) target
      (Ne.symm different)
    obtain ⟨others, survives⟩ := ih settled.lodged
      (by
        rw [mem_absorbed_absorb target (Ne.symm different)]
        exact fun absorbed => absorbed.elim (Ne.symm different) target)
      (fun other member => by
        rw [mem_absorbed_absorb target (Ne.symm different)]
        refine fun absorbed => absorbed.elim (fun same => ?_)
          (live other (List.mem_cons_of_mem _ member))
        exact fresh (same ▸ List.mem_map_of_mem member))
      (by
        rw [List.map_cons, List.nodup_cons]
        exact ⟨apart, distinct⟩)
    exact ⟨settled.trans others, survives⟩

end Lodged
end Draft

namespace Ledger

theorem mem_situations_foldl_store {situations : List Situation} {id : String} :
    id ∈ (situations.foldl store ledger).situations ↔
      id ∈ ledger.situations ∨ ∃ situation ∈ situations, situation.id = id := by
  induction situations generalizing ledger with
  | nil => simp
  | cons first rest ih =>
    rw [List.foldl_cons, ih]
    simp only [store, ExtTreeMap.mem_insert, LawfulEqOrd.compare_eq_iff_eq, List.mem_cons,
      exists_eq_or_imp]
    rw [or_assoc, or_left_comm]

/-- A situation that is stored stands under its id. -/
theorem situations_foldl_store_cases {situations : List Situation} {id : String}
    {situation : Situation}
    (found : (situations.foldl store ledger).situations[id]? = some situation) :
    situation.id = id ∨ ledger.situations[id]? = some situation := by
  induction situations generalizing ledger with
  | nil => exact .inr found
  | cons first rest ih =>
    refine (ih found).elim .inl fun before => ?_
    simp only [store, ExtTreeMap.getElem?_insert, LawfulEqOrd.compare_eq_iff_eq] at before
    split at before
    · rename_i same
      exact .inl (Option.some.inj before ▸ same)
    · exact .inr before

/-- An alarm stays where it was or is claimed by a situation that is stored. -/
theorem homes_foldl_store_cases {situations : List Situation} {id alarm : String}
    (belongs : (situations.foldl store ledger).homes[alarm]? = some id) :
    ledger.homes[alarm]? = some id ∨ ∃ situation ∈ situations, situation.id = id := by
  induction situations generalizing ledger with
  | nil => exact .inl belongs
  | cons first rest ih =>
    rcases ih belongs with before | ⟨situation, member, same⟩
    · rw [store, getElem?_claim] at before
      split at before
      · exact .inr ⟨first, List.mem_cons_self .., Option.some.inj before⟩
      · exact .inl before
    · exact .inr ⟨situation, List.mem_cons_of_mem _ member, same⟩

/-- Alarms that belong somewhere still do so when situations are stored. -/
theorem mem_homes_foldl_store {situations : List Situation} {alarm : String}
    (somewhere : alarm ∈ ledger.homes) : alarm ∈ (situations.foldl store ledger).homes := by
  refine List.foldlRecOn situations store (motive := fun (after : Ledger) => alarm ∈ after.homes)
    somewhere fun before belongs situation _ => ?_
  rw [ExtTreeMap.mem_iff_isSome_getElem?, store, getElem?_claim]
  split
  · rfl
  · exact ExtTreeMap.mem_iff_isSome_getElem?.mp belongs

/-- Before the drafted situations are entered alarms belong to situations that are there or are
about to be entered. -/
theorem home_known_prepared (housed : ledger.Housed) (lodged : draft.Lodged ledger)
    {alarm home : String} (belongs : (ledger.prepared draft).homes[alarm]? = some home) :
    home ∈ draft.situations ∨ home ∈ (ledger.prepared draft).situations := by
  have stays {id : String} (known : id ∈ ledger.situations) (live : id ∉ draft.absorbed) :
      id ∈ (ledger.prepared draft).situations := by
    change id ∈ (ledger.applyAbsorptions draft).situations
    rw [ExtTreeMap.mem_iff_isSome_getElem?, getElem?_situations_applyAbsorptions, if_neg live,
      ← ExtTreeMap.mem_iff_isSome_getElem?]
    exact known
  change ((ledger.applyAbsorptions draft).applyHomes draft).homes[alarm]? = _ at belongs
  rw [getElem?_applyHomes, getElem?_homes_applyAbsorptions lodged.flat] at belongs
  cases found : draft.homes[alarm]? with
  | some entry =>
    obtain ⟨id, rfl, there⟩ := lodged.home_known found
    rw [found, Option.getD_some] at belongs
    obtain rfl := Option.some.inj belongs
    exact there.imp_right fun kept => stays kept.1 kept.2
  | none =>
    rw [found, Option.getD_none] at belongs
    obtain ⟨previous, before, rfl⟩ := Option.map_eq_some_iff.mp belongs
    right
    rw [Draft.resolve_eq lodged.flat]
    cases absorbed : draft.absorbed[previous]? with
    | some target =>
      obtain ⟨known, live⟩ := lodged.absorbed_known absorbed
      exact stays known live
    | none => exact stays (housed.home_known before) (by simpa using absorbed)

section Commit

variable (housed : ledger.Housed) (lodged : draft.Lodged ledger)
include housed lodged

theorem housed_stored {situations : List Situation}
    (finished : Finished draft.situations.values situations) :
    (situations.foldl store (ledger.prepared draft)).Housed := by
  refine ⟨fun {id situation} found => ?_, fun {home alarm} belongs => ?_⟩
  · refine (situations_foldl_store_cases found).elim (fun named => named) fun before => ?_
    change (ledger.applyAbsorptions draft).situations[id]? = some situation at before
    rw [getElem?_situations_applyAbsorptions] at before
    split at before
    · contradiction
    · exact housed.id_eq before
  · rw [mem_situations_foldl_store]
    have entered {id : String} (underway : id ∈ draft.situations) :
        ∃ situation ∈ situations, situation.id = id := by
      rw [← List.mem_map, finished.map_id_eq_keys fun _ _ => lodged.id_eq]
      exact ExtTreeMap.mem_keys.mpr underway
    rcases homes_foldl_store_cases belongs with before | there
    · exact (home_known_prepared housed lodged before).symm.imp_right entered
    · exact .inr there

variable {W : Type} [Weight W] (graph : Topology W) (cache : DistanceCache W)

/-- A commit comes to the end once the drafted situations are stored, but for void exclusions. -/
theorem commit_eq :
    let situations := ((draft.situations.values.mapM (finish graph)).run cache).1
    ((ledger.commit draft graph).run cache).1 =
      ((situations.foldl store (ledger.prepared draft)).dropVoidExclusions, situations) := by
  intro situations
  have finished : Finished draft.situations.values situations := finish_all graph _ cache
  have released : (situations.foldl store (ledger.prepared draft)).applyReleases draft =
      situations.foldl store (ledger.prepared draft) :=
    applyReleases_of_known fun _ _ => (housed_stored housed lodged finished).home_known
  rw [← released]
  rfl

/-- After the commit of a draft every alarm belongs to a situation that is there. -/
theorem commit_housed : ((ledger.commit draft graph).run cache).1.1.Housed := by
  have stored := housed_stored housed lodged (finish_all graph _ cache)
  rw [commit_eq housed lodged]
  exact ⟨stored.id_eq, stored.home_known⟩

/-- A commit stores the situations that are drafted. -/
theorem commit_drafted {id : String} {drafted : SituationDraft}
    (found : draft.situations[id]? = some drafted) :
    ∃ text, ((ledger.commit draft graph).run cache).1.1.situations[id]? =
      some { drafted.situation with diagnostic := text } := by
  rw [commit_eq housed lodged]
  exact getElem?_stored (finish_all graph _ cache) (fun _ _ => lodged.id_eq) found

/-- An alarm that belongs somewhere in the draft does so after the commit. -/
theorem mem_homes_commit {alarm : String} (somewhere : (draft.homeOf? ledger alarm).isSome) :
    alarm ∈ ((ledger.commit draft graph).run cache).1.1.homes := by
  rw [commit_eq housed lodged]
  refine mem_homes_foldl_store ?_
  change alarm ∈ ((ledger.applyAbsorptions draft).applyHomes draft).homes
  rw [ExtTreeMap.mem_iff_isSome_getElem?, getElem?_applyHomes,
    getElem?_homes_applyAbsorptions lodged.flat]
  cases found : draft.homes[alarm]? with
  | some home =>
    obtain ⟨id, rfl, _⟩ := lodged.home_known found
    rfl
  | none =>
    rw [Draft.homeOf?_of_ledger found] at somewhere
    exact somewhere

end Commit
end Ledger
end FaultCorrelation
