import Mathlib.Logic.Relation
import FaultCorrelation.Proofs.Ledger.DraftCoherence

/-! # Steps of a draft

After feedback has been applied, the rules change a draft in five elementary ways only: they open
the draft of a situation, begin one for a new situation, renew a copy that is shown, let an alarm
join that belongs nowhere, and absorb one situation into another. `DraftStep` says so, with what
each way takes for granted.

`Draft.Continues` compares a draft with an earlier one from which steps lead to it: what was shown
is shown where its situation has gone, and nothing else is shown but alarms that belonged nowhere.
-/

namespace FaultCorrelation

open Std

/-- What steps may bring into a draft. -/
structure DraftScope where
  /-- The ids under which situations may be begun. -/
  Begins : String → Prop
  /-- The alarms that may come to be shown. -/
  Shows : Alarm → Prop

/-- One elementary change of a draft, within a scope. -/
inductive DraftStep (ledger : Ledger) (scope : DraftScope) (draft : Draft) : Draft → Prop where
  | reopen (situation : Situation)
      (known : ledger.situations[situation.id]? = some situation)
      (live : situation.id ∉ draft.absorbed) :
      DraftStep ledger scope draft (draft.store situation.id (draft.opened situation))
  | begin (id : String) (fresh : scope.Begins id) (unknown : id ∉ ledger.situations)
      (unused : id ∉ draft.situations) :
      DraftStep ledger scope draft (draft.store id (.start id draft.time))
  | renew {id : String} {drafted : SituationDraft} (alarm : Alarm) (allowed : scope.Shows alarm)
      (underway : draft.situations[id]? = some drafted) (shown : alarm.id ∈ drafted.alarms) :
      DraftStep ledger scope draft (draft.store id (drafted.put alarm))
  | join {id : String} {drafted : SituationDraft} (alarm : Alarm) (allowed : scope.Shows alarm)
      (underway : draft.situations[id]? = some drafted)
      (homeless : draft.homeOf? ledger alarm.id = none) :
      DraftStep ledger scope draft ((draft.associate alarm.id id).store id (drafted.put alarm))
  | absorb (other survivor : Situation)
      (known : ledger.situations[other.id]? = some other)
      (survives : ledger.situations[survivor.id]? = some survivor)
      (live : other.id ∉ draft.absorbed) (target : survivor.id ∉ draft.absorbed)
      (distinct : other.id ≠ survivor.id) :
      DraftStep ledger scope draft (draft.absorb other survivor)

/-- Any number of elementary changes. -/
abbrev DraftSteps (ledger : Ledger) (scope : DraftScope) : Draft → Draft → Prop :=
  Relation.ReflTransGen (DraftStep ledger scope)

namespace Draft

variable {ledger : Ledger} {scope : DraftScope} {base draft next : Draft}

theorem copy?_store_put (coherent : draft.Coherent ledger) {id : String}
    {drafted : SituationDraft} (underway : draft.situations[id]? = some drafted) (alarm : Alarm)
    (other shown : String) : (draft.store id (drafted.put alarm)).copy? ledger other shown =
      if id = other ∧ alarm.id = shown then some alarm else draft.copy? ledger other shown := by
  rw [copy?_store (coherent.live (Collections.mem_of_getElem? underway)),
    SituationDraft.getElem?_put]
  by_cases same : id = other
  · subst same
    simp [copy?_of_underway coherent underway]
  · simp only [same, false_and, if_false]

theorem live_of_unknown (coherent : draft.Coherent ledger) {id : String}
    (unknown : id ∉ ledger.situations) : id ∉ draft.absorbed := by
  intro absorbed
  obtain ⟨target, found⟩ := Collections.exists_getElem? absorbed
  exact unknown (coherent.absorbed_known found).1

/-- Elementary changes keep a draft coherent. -/
theorem Coherent.step (coherent : draft.Coherent ledger) (grounded : ledger.Orderly)
    (step : DraftStep ledger scope draft next) : next.Coherent ledger := by
  cases step with
  | reopen situation known live => exact coherent.reopen grounded known live
  | begin id fresh unknown unused =>
    refine coherent.store (live_of_unknown coherent unknown) rfl .empty ?_
    intro alarm shown
    simp [SituationDraft.start] at shown
  | @renew id drafted alarm allowed underway shown =>
    have member := Collections.mem_of_getElem? underway
    refine coherent.store (coherent.live member)
      ((drafted.put_id alarm).trans (coherent.id_eq underway))
      ((coherent.keyed underway).insert alarm) ?_
    intro other present
    apply coherent.home_of_shown
    rw [copy?_of_underway coherent underway]
    rw [SituationDraft.getElem?_put] at present
    split at present
    · rename_i same
      rw [← same]
      exact ExtTreeMap.mem_iff_isSome_getElem?.mp shown
    · exact present
  | @join id drafted alarm allowed underway homeless =>
    have member := Collections.mem_of_getElem? underway
    have there : draft.hasSituation ledger id :=
      hasSituation_iff.mpr ⟨coherent.live member, .inl member⟩
    have associated : (draft.associate alarm.id id).Coherent ledger := by
      apply coherent.associate there
      intro other shown
      rw [coherent.copy?_of_homeOf?_none homeless] at shown
      contradiction
    refine associated.store (coherent.live member)
      ((drafted.put_id alarm).trans (coherent.id_eq underway))
      ((coherent.keyed underway).insert alarm) ?_
    intro other present
    rw [SituationDraft.getElem?_put] at present
    split at present
    · rename_i same
      rw [homeOf?_associate, if_pos same, resolve_of_not_mem (coherent.live member)]
    · apply associated.home_of_shown
      rw [copy?_of_underway associated underway]
      exact present
  | absorb other survivor known survives live target distinct =>
    exact coherent.absorb grounded known survives live target distinct

theorem Coherent.steps (coherent : draft.Coherent ledger) (grounded : ledger.Orderly)
    (steps : DraftSteps ledger scope draft next) : next.Coherent ledger := by
  induction steps with
  | refl => exact coherent
  | tail _ step ih => exact ih.step grounded step

/-- Whether only situations of the ledger are being drafted. -/
def IsSettled (ledger : Ledger) (draft : Draft) : Prop :=
  ∀ id : String, id ∈ draft.situations → id ∈ ledger.situations

theorem isSettled_new (time : Int) : (new time).IsSettled ledger := by
  intro id member
  simp [new] at member

theorem IsSettled.store (settled : draft.IsSettled ledger) {id : String}
    (known : id ∈ ledger.situations) (drafted : SituationDraft) :
    (draft.store id drafted).IsSettled ledger := by
  intro other member
  rcases ExtTreeMap.mem_insert.mp member with same | member
  · rw [LawfulEqOrd.compare_eq_iff_eq] at same
    exact same ▸ known
  · exact settled other member

/-- A step brings in situations of the ledger and situations that are begun, no others. -/
theorem mem_situations_of_step (step : DraftStep ledger scope draft next) {id : String}
    (member : id ∈ next.situations) :
    id ∈ draft.situations ∨ id ∈ ledger.situations ∨ scope.Begins id := by
  have stored {key : String} {drafted : SituationDraft}
      (member : id ∈ (draft.store key drafted).situations) : key = id ∨ id ∈ draft.situations :=
    (ExtTreeMap.mem_insert.mp member).imp_left LawfulEqOrd.compare_eq_iff_eq.mp
  cases step with
  | reopen situation known =>
    rcases stored member with rfl | before
    · exact .inr (.inl (Collections.mem_of_getElem? known))
    · exact .inl before
  | begin key fresh =>
    rcases stored member with rfl | before
    · exact .inr (.inr fresh)
    · exact .inl before
  | renew alarm _ underway =>
    rcases stored member with rfl | before
    · exact .inl (Collections.mem_of_getElem? underway)
    · exact .inl before
  | join alarm _ underway =>
    rcases stored member with rfl | before
    · exact .inl (Collections.mem_of_getElem? underway)
    · exact .inl before
  | absorb other survivor _ survives _ target distinct =>
    rcases (mem_situations_absorb target distinct).mp member with rfl | ⟨_, before⟩
    · exact .inr (.inl (Collections.mem_of_getElem? survives))
    · exact .inl before

theorem mem_situations_of_steps (steps : DraftSteps ledger scope draft next) {id : String}
    (member : id ∈ next.situations) :
    id ∈ draft.situations ∨ id ∈ ledger.situations ∨ scope.Begins id := by
  induction steps with
  | refl => exact .inl member
  | tail _ step ih => exact (mem_situations_of_step step member).elim ih .inr

/-- What has been absorbed stays absorbed. -/
theorem mem_absorbed_of_step (step : DraftStep ledger scope draft next) {id : String}
    (gone : id ∈ draft.absorbed) : id ∈ next.absorbed := by
  cases step with
  | absorb other survivor _ _ _ target distinct =>
    exact (mem_absorbed_absorb target distinct).mpr (.inr gone)
  | _ => exact gone

/-- A situation goes on being drafted unless it is absorbed. -/
theorem mem_situations_of_live (steps : DraftSteps ledger scope draft next) {id : String}
    (underway : id ∈ draft.situations) (live : id ∉ next.absorbed) : id ∈ next.situations := by
  induction steps with
  | refl => exact underway
  | tail _ step ih =>
    have member := ih (mt (mem_absorbed_of_step step) live)
    cases step with
    | absorb other survivor _ _ _ target distinct =>
      rw [mem_absorbed_absorb target distinct, not_or] at live
      exact (mem_situations_absorb target distinct).mpr (.inr ⟨live.1, member⟩)
    | _ => exact ExtTreeMap.mem_insert.mpr (.inr member)

/-- Where nothing is begun a draft stays settled. -/
theorem IsSettled.steps (settled : draft.IsSettled ledger) (nothing : ∀ id, ¬ scope.Begins id)
    (steps : DraftSteps ledger scope draft next) : next.IsSettled ledger := by
  intro id member
  rcases mem_situations_of_steps steps member with before | known | begins
  · exact settled id before
  · exact known
  · exact absurd begins (nothing id)

/-- Whether all copies of an alarm that are shown satisfy a predicate. -/
def EveryCopy (ledger : Ledger) (draft : Draft) (alarm : String) (Holds : Alarm → Prop) : Prop :=
  ∀ (id : String) (copy : Alarm), draft.copy? ledger id alarm = some copy → Holds copy

/-- What holds of the copies before a step and of the alarms that it may show holds of the copies
after it. -/
theorem EveryCopy.step {alarm : String} {Holds : Alarm → Prop}
    (before : draft.EveryCopy ledger alarm Holds) (grounded : ledger.Orderly)
    (coherent : draft.Coherent ledger)
    (allowed : ∀ other, scope.Shows other → other.id = alarm → Holds other)
    (step : DraftStep ledger scope draft next) : next.EveryCopy ledger alarm Holds := by
  have put {id : String} {drafted : SituationDraft} {other : Alarm} (shows : scope.Shows other)
      (underway : draft.situations[id]? = some drafted) :
      (draft.store id (drafted.put other)).EveryCopy ledger alarm Holds := by
    intro home copy found
    rw [copy?_store_put coherent underway] at found
    split at found
    · rename_i same
      exact Option.some.inj found ▸ allowed other shows same.2
    · exact before home copy found
  cases step with
  | reopen situation known live =>
    intro id copy found
    rw [copy?_store live] at found
    split at found
    · rw [getElem?_opened known live] at found
      exact before _ copy found
    · exact before id copy found
  | begin id fresh unknown unused =>
    intro other copy found
    rw [copy?_store (live_of_unknown coherent unknown)] at found
    split at found
    · simp [SituationDraft.start] at found
    · exact before other copy found
  | renew other shows underway => exact put shows underway
  | join other shows underway => exact put shows underway
  | absorb other survivor known survives live target distinct =>
    intro id copy found
    obtain ⟨previous, shown, _⟩ :=
      coherent.exists_copy_of_absorb grounded known survives live target distinct found
    exact before previous copy shown

theorem EveryCopy.steps {alarm : String} {Holds : Alarm → Prop}
    (before : draft.EveryCopy ledger alarm Holds) (grounded : ledger.Orderly)
    (coherent : draft.Coherent ledger)
    (allowed : ∀ other, scope.Shows other → other.id = alarm → Holds other)
    (steps : DraftSteps ledger scope draft next) : next.EveryCopy ledger alarm Holds := by
  induction steps with
  | refl => exact before
  | tail earlier step ih => exact ih.step grounded (coherent.steps grounded earlier) allowed step

/-- How a draft goes on from an earlier one that had absorbed nothing. -/
structure Continues (ledger : Ledger) (base draft : Draft) : Prop where
  shown_iff (id alarm : String) : (draft.copy? ledger id alarm).isSome ↔
    (∃ source, (base.copy? ledger source alarm).isSome ∧ draft.resolve source = id) ∨
      base.homeOf? ledger alarm = none ∧ draft.homeOf? ledger alarm = some id
  home_eq {alarm home : String} : base.homeOf? ledger alarm = some home →
    draft.homeOf? ledger alarm = some (draft.resolve home)
  mem_exclusions (id alarm : String) : ⟨id, alarm⟩ ∈ draft.exclusions ↔
    ∃ source, ⟨source, alarm⟩ ∈ base.exclusions ∧ draft.resolve source = id
  inclusions_eq : draft.inclusions = base.inclusions

theorem continues_self (untouched : base.absorbed = ∅) : Continues ledger base base where
  shown_iff id alarm := by
    have stays (source : String) : base.resolve source = source :=
      resolve_of_not_mem (by simp [untouched])
    simp only [stays, exists_eq_right]
    refine ⟨.inl, ?_⟩
    rintro (shown | ⟨homeless, home⟩)
    · exact shown
    · rw [homeless] at home
      contradiction
  home_eq home := by rw [home, resolve_of_not_mem (by simp [untouched])]
  mem_exclusions id alarm := by
    have stays (source : String) : base.resolve source = source :=
      resolve_of_not_mem (by simp [untouched])
    simp only [stays, exists_eq_right]
  inclusions_eq := rfl

namespace Continues

variable (continues : Continues ledger base draft)
include continues

/-- Changes that neither show an alarm, nor hide one, nor move one. -/
theorem congr (absorbed : next.absorbed = draft.absorbed)
    (shown : ∀ id alarm, (next.copy? ledger id alarm).isSome = (draft.copy? ledger id alarm).isSome)
    (homes : next.homes = draft.homes) (exclusions : next.exclusions = draft.exclusions)
    (inclusions : next.inclusions = draft.inclusions) : Continues ledger base next where
  shown_iff id alarm := by
    rw [shown, continues.shown_iff, homeOf?_congr homes absorbed]
    simp only [resolve_congr absorbed]
  home_eq home := by
    rw [homeOf?_congr homes absorbed, resolve_congr absorbed]
    exact continues.home_eq home
  mem_exclusions id alarm := by
    rw [exclusions, continues.mem_exclusions]
    simp only [resolve_congr absorbed]
  inclusions_eq := inclusions.trans continues.inclusions_eq

/-- An alarm that belongs nowhere did not belong anywhere before. -/
theorem homeless {alarm : String} (homeless : draft.homeOf? ledger alarm = none) :
    base.homeOf? ledger alarm = none := by
  rw [Option.eq_none_iff_forall_not_mem]
  intro home belongs
  rw [continues.home_eq belongs] at homeless
  contradiction

/-- The alarm that joins is shown in its new situation and nowhere else. -/
theorem join (origin : base.Coherent ledger) (coherent : draft.Coherent ledger) {id : String}
    {drafted : SituationDraft} {alarm : Alarm} (underway : draft.situations[id]? = some drafted)
    (homeless : draft.homeOf? ledger alarm.id = none) :
    Continues ledger base ((draft.associate alarm.id id).store id (drafted.put alarm)) := by
  have live : id ∉ draft.absorbed := coherent.live (Collections.mem_of_getElem? underway)
  have before : base.homeOf? ledger alarm.id = none := continues.homeless homeless
  have homes (other : String) :
      ((draft.associate alarm.id id).store id (drafted.put alarm)).homeOf? ledger other =
        if alarm.id = other then some id else draft.homeOf? ledger other := by
    rw [homeOf?_store, homeOf?_associate, resolve_of_not_mem live]
  have copies (other shown : String) :
      ((draft.associate alarm.id id).store id (drafted.put alarm)).copy? ledger other shown =
        if id = other ∧ alarm.id = shown then some alarm else draft.copy? ledger other shown :=
    copy?_store_put coherent underway alarm other shown
  refine ⟨fun other shown => ?_, fun {other home} belongs => ?_, continues.mem_exclusions,
    continues.inclusions_eq⟩
  · change _ ↔ (∃ source, _ ∧ draft.resolve source = other) ∨ _
    rw [copies, homes]
    by_cases joins : alarm.id = shown
    · subst joins
      have nowhere (source : String) : base.copy? ledger source alarm.id = none :=
        origin.copy?_of_homeOf?_none before source
      by_cases same : id = other <;>
        simp [nowhere, before, same, coherent.copy?_of_homeOf?_none homeless]
    · simp only [joins, and_false, if_false]
      exact continues.shown_iff other shown
  · rw [homes, if_neg]
    · exact continues.home_eq belongs
    · rintro rfl
      rw [before] at belongs
      contradiction

/-- What the absorbed situation shows goes where it goes. -/
theorem absorb (grounded : ledger.Orderly) (coherent : draft.Coherent ledger)
    {other survivor : Situation} (known : ledger.situations[other.id]? = some other)
    (survives : ledger.situations[survivor.id]? = some survivor)
    (live : other.id ∉ draft.absorbed) (target : survivor.id ∉ draft.absorbed)
    (distinct : other.id ≠ survivor.id) :
    Continues ledger base (draft.absorb other survivor) := by
  have resolved := resolve_absorb live target distinct coherent.flat
  refine ⟨fun id alarm => ?_, fun {alarm home} belongs => ?_, fun id alarm => ?_, ?_⟩
  · let moved (id : String) : String := if id = other.id then survivor.id else id
    have before : (∃ previous, (draft.copy? ledger previous alarm).isSome ∧ moved previous = id) ↔
        (∃ source, (base.copy? ledger source alarm).isSome ∧ moved (draft.resolve source) = id) ∨
          base.homeOf? ledger alarm = none ∧
            (draft.homeOf? ledger alarm).map moved = some id := by
      simp only [continues.shown_iff, Option.map_eq_some_iff]
      constructor
      · rintro ⟨previous, ⟨source, shown, rfl⟩ | ⟨homeless, home⟩, renamed⟩
        · exact .inl ⟨source, shown, renamed⟩
        · exact .inr ⟨homeless, previous, home, renamed⟩
      · rintro (⟨source, shown, renamed⟩ | ⟨homeless, previous, home, renamed⟩)
        · exact ⟨_, .inl ⟨source, shown, rfl⟩, renamed⟩
        · exact ⟨previous, .inr ⟨homeless, home⟩, renamed⟩
    rw [homeOf?_absorb live target distinct coherent.flat]
    simp only [resolved]
    exact (coherent.shown_absorb_iff grounded known survives live target distinct id alarm).trans
      before
  · rw [homeOf?_absorb live target distinct coherent.flat, continues.home_eq belongs,
      Option.map_some, resolved]
  · rw [exclusions_absorb target distinct, ExclusionSet.mem_redirect]
    simp only [continues.mem_exclusions, resolved]
    constructor
    · rintro ⟨_, ⟨source, member, rfl⟩, renamed⟩
      exact ⟨source, member, renamed⟩
    · rintro ⟨source, member, renamed⟩
      exact ⟨_, ⟨source, member, rfl⟩, renamed⟩
  · rw [inclusions_absorb target distinct]
    exact continues.inclusions_eq

/-- Elementary changes keep the comparison with the earlier draft. -/
theorem step (grounded : ledger.Orderly) (origin : base.Coherent ledger)
    (coherent : draft.Coherent ledger) (step : DraftStep ledger scope draft next) :
    Continues ledger base next := by
  cases step with
  | reopen situation known live =>
    refine continues.congr rfl (fun id alarm => ?_) rfl rfl rfl
    rw [copy?_store live]
    split
    · rename_i same
      rw [getElem?_opened known live, same]
    · rfl
  | begin id fresh unknown unused =>
    refine continues.congr rfl (fun other alarm => ?_) rfl rfl rfl
    have live : id ∉ draft.absorbed := live_of_unknown coherent unknown
    rw [copy?_store live]
    split
    · rename_i same
      subst same
      simp [copy?, SituationDraft.start, Ledger.copy?, live, unused, unknown]
    · rfl
  | @renew id drafted alarm allowed underway shown =>
    refine continues.congr rfl (fun other copy => ?_) rfl rfl rfl
    rw [copy?_store_put coherent underway]
    split
    · rename_i same
      rw [← same.1, ← same.2, copy?_of_underway coherent underway, Option.isSome_some]
      exact (ExtTreeMap.mem_iff_isSome_getElem?.mp shown).symm
    · rfl
  | join alarm _ underway homeless => exact continues.join origin coherent underway homeless
  | absorb other survivor known survives live target distinct =>
    exact continues.absorb grounded coherent known survives live target distinct

theorem steps (grounded : ledger.Orderly) (origin : base.Coherent ledger)
    (coherent : draft.Coherent ledger) (steps : DraftSteps ledger scope draft next) :
    Continues ledger base next := by
  induction steps with
  | refl => exact continues
  | tail earlier step ih => exact ih.step grounded origin (coherent.steps grounded earlier) step

end Continues
end Draft
end FaultCorrelation
