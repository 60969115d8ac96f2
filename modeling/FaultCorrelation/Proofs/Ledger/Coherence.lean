import FaultCorrelation.Proofs.Alarm.Keyed

/-! # Coherent ledgers

In a coherent ledger every situation stands under its own id with its alarms under theirs and with
the severity they call for, the alarms that a situation shows belong to it, and alarms belong to and
are kept out of situations that are there. The empty ledger is coherent, and loading and deleting
situations keep a ledger coherent; commits are in `Proofs.Ledger.Commitment`.
-/

namespace FaultCorrelation

open Std

theorem ExclusionSet.mem_redirect {exclusions : ExclusionSet} {source target id alarm : String} :
    ⟨id, alarm⟩ ∈ exclusions.redirect source target ↔
      ∃ previous, ⟨previous, alarm⟩ ∈ exclusions ∧
        (if previous = source then target else previous) = id := by
  rw [redirect, ExtTreeSet.mem_ofList, List.contains_iff_mem, List.mem_map]
  constructor
  · rintro ⟨⟨previous, other⟩, member, renamed⟩
    refine ⟨previous, ?_, ?_⟩
    · split at renamed <;> cases renamed <;> exact ExtTreeSet.mem_toList.mp member
    · split at renamed <;> cases renamed <;> simp_all
  · rintro ⟨previous, member, rfl⟩
    refine ⟨⟨previous, alarm⟩, ExtTreeSet.mem_toList.mpr member, ?_⟩
    split <;> rfl

namespace Ledger

/-- The copy of an alarm that a situation shows. -/
def copy? (ledger : Ledger) (id alarm : String) : Option Alarm :=
  ledger.situations[id]?.bind fun situation => situation.alarms[alarm]?

theorem copy?_of_getElem? {ledger : Ledger} {id : String} {situation : Situation}
    (found : ledger.situations[id]? = some situation) (alarm : String) :
    ledger.copy? id alarm = situation.alarms[alarm]? := by
  rw [copy?, found, Option.bind_some]

/-- Whether a situation shows an alarm. -/
def Shows (ledger : Ledger) (id alarm : String) : Prop :=
  ∃ situation, ledger.situations[id]? = some situation ∧ alarm ∈ situation.alarms

theorem shows_iff {ledger : Ledger} {id alarm : String} :
    ledger.Shows id alarm ↔ (ledger.copy? id alarm).isSome := by
  cases found : ledger.situations[id]? <;> simp [Shows, copy?, found]

/-- What every ledger of an engine is like. -/
structure Coherent (ledger : Ledger) : Prop where
  id_eq {id : String} {situation : Situation} :
    ledger.situations[id]? = some situation → situation.id = id
  keyed {id : String} {situation : Situation} :
    ledger.situations[id]? = some situation → situation.alarms.IsKeyed
  severity_eq {id : String} {situation : Situation} :
    ledger.situations[id]? = some situation → situation.severity = situation.computedSeverity
  home_of_shown {id alarm : String} : ledger.Shows id alarm → ledger.homes[alarm]? = some id
  home_known {id alarm : String} : ledger.homes[alarm]? = some id → id ∈ ledger.situations
  exclusion_known {id alarm : String} :
    ⟨id, alarm⟩ ∈ ledger.exclusions → id ∈ ledger.situations

/-- What a ledger is like whatever its situations show: situations stand under their own ids, and
alarms belong to situations that are there. -/
structure Housed (ledger : Ledger) : Prop where
  id_eq {id : String} {situation : Situation} :
    ledger.situations[id]? = some situation → situation.id = id
  home_known {id alarm : String} : ledger.homes[alarm]? = some id → id ∈ ledger.situations

/-- What a ledger is like as far as merging goes: moreover alarms stand under their own ids, and
those that a situation shows belong to it. -/
structure Orderly (ledger : Ledger) : Prop extends Housed ledger where
  keyed {id : String} {situation : Situation} :
    ledger.situations[id]? = some situation → situation.alarms.IsKeyed
  home_of_shown {id alarm : String} : ledger.Shows id alarm → ledger.homes[alarm]? = some id

theorem Coherent.housed {ledger : Ledger} (coherent : ledger.Coherent) : ledger.Housed :=
  ⟨coherent.id_eq, coherent.home_known⟩

theorem Coherent.orderly {ledger : Ledger} (coherent : ledger.Coherent) : ledger.Orderly :=
  ⟨coherent.housed, coherent.keyed, coherent.home_of_shown⟩

theorem housed_empty : Housed {} where
  id_eq found := by simp at found
  home_known found := by simp at found

theorem coherent_empty : Coherent {} where
  id_eq found := by simp at found
  keyed found := by simp at found
  severity_eq found := by simp at found
  home_of_shown shown := by
    obtain ⟨situation, found, _⟩ := shown
    simp at found
  home_known found := by simp at found
  exclusion_known member := by simp at member

theorem getElem?_claim (homes : ExtTreeMap String String) (situation alarm : String)
    (alarms : List String) :
    (claim homes situation alarms)[alarm]? =
      if alarm ∈ alarms then some situation else homes[alarm]? := by
  induction alarms generalizing homes with
  | nil => simp [claim]
  | cons first rest ih =>
    have step : claim homes situation (first :: rest) =
        claim (homes.insert first situation) situation rest := rfl
    rw [step, ih]
    by_cases later : alarm ∈ rest
    · simp [later]
    · by_cases same : first = alarm
      · simp [same]
      · simp [later, same, Ne.symm same, ExtTreeMap.getElem?_insert]

theorem loadAll_eq (ledger : Ledger) (situations : List Situation) :
    (ledger.loadAll situations).1 =
      situations.foldl (fun ledger situation => (ledger.load situation).1) ledger :=
  Collections.foldl_counted (fun ledger situation => (Ledger.load ledger situation).1)
    (fun ledger situation => (Ledger.load ledger situation).2.toNat) situations ledger 0

theorem unclaimed_homeless {ledger : Ledger} {situation : Situation} {alarm : String}
    (member : alarm ∈ (ledger.unclaimed situation).alarms) : ledger.homes[alarm]? = none := by
  obtain ⟨_, kept⟩ := ExtTreeMap.mem_filter.mp member
  simpa using kept

/-- What a ledger is like once it has taken a situation, but for its alarms that belong
elsewhere. -/
structure Takes (ledger : Ledger) (situation : Situation) (after : Ledger) : Prop where
  unknown : situation.id ∉ ledger.situations
  getElem?_situations (id : String) : after.situations[id]? =
    if situation.id = id then some (ledger.unclaimed situation) else ledger.situations[id]?
  getElem?_homes (alarm : String) : after.homes[alarm]? =
    if alarm ∈ (ledger.unclaimed situation).alarms then some situation.id else ledger.homes[alarm]?
  exclusions_eq : after.exclusions = ledger.exclusions

theorem load_of_passed {ledger : Ledger} {situation : Situation}
    (passed : situation.id = "" ∨ situation.id ∈ ledger.situations) :
    ledger.load situation = (ledger, false) := by
  rw [load, if_pos (passed.imp_left String.isEmpty_iff.mpr)]

/-- A situation with an id that is not there yet is taken. -/
theorem load_of_fresh {ledger : Ledger} {situation : Situation} (named : situation.id ≠ "")
    (unknown : situation.id ∉ ledger.situations) : ledger.load situation =
      ({ ledger with
        situations := ledger.situations.insert situation.id (ledger.unclaimed situation)
        homes :=
          claim ledger.homes situation.id (ledger.unclaimed situation).alarms.keys }, true) :=
  if_neg (not_or.mpr ⟨mt String.isEmpty_iff.mp named, unknown⟩)

theorem takes_load {ledger : Ledger} {situation : Situation} (named : situation.id ≠ "")
    (unknown : situation.id ∉ ledger.situations) :
    ledger.Takes situation (ledger.load situation).1 := by
  rw [load_of_fresh named unknown]
  refine ⟨unknown, fun id => ?_, fun alarm => ?_, rfl⟩
  · simp [ExtTreeMap.getElem?_insert]
  · simp [getElem?_claim]

/-- A situation is passed over or taken. -/
theorem load_cases (ledger : Ledger) (situation : Situation) :
    (ledger.load situation).1 = ledger ∨ ledger.Takes situation (ledger.load situation).1 := by
  by_cases passed : situation.id = "" ∨ situation.id ∈ ledger.situations
  · exact .inl (congrArg Prod.fst (load_of_passed passed))
  · obtain ⟨named, unknown⟩ := not_or.mp passed
    exact .inr (takes_load named unknown)

namespace Takes

variable {ledger after : Ledger} {situation : Situation} (takes : ledger.Takes situation after)
include takes

theorem situations_cases {id : String} {shown : Situation}
    (found : after.situations[id]? = some shown) :
    situation.id = id ∧ shown = ledger.unclaimed situation ∨
      situation.id ≠ id ∧ ledger.situations[id]? = some shown := by
  rw [takes.getElem?_situations] at found
  split at found
  · exact .inl ⟨‹_›, (Option.some.inj found).symm⟩
  · exact .inr ⟨‹_›, found⟩

theorem mem_situations (id : String) :
    id ∈ after.situations ↔ situation.id = id ∨ id ∈ ledger.situations := by
  rw [ExtTreeMap.mem_iff_isSome_getElem?, takes.getElem?_situations,
    ExtTreeMap.mem_iff_isSome_getElem?]
  by_cases same : situation.id = id <;> simp [same]

theorem mem_homes (alarm : String) :
    alarm ∈ after.homes ↔ alarm ∈ ledger.homes ∨ alarm ∈ situation.alarms := by
  have left : alarm ∈ (ledger.unclaimed situation).alarms ↔
      alarm ∈ situation.alarms ∧ alarm ∉ ledger.homes :=
    ExtTreeMap.mem_filter.trans (by simp)
  rw [ExtTreeMap.mem_iff_isSome_getElem?, takes.getElem?_homes]
  split
  · simp_all
  · rw [← ExtTreeMap.mem_iff_isSome_getElem?]
    tauto

/-- What the situation shows belonged nowhere before. -/
theorem home_of_shown (single : ∀ {id alarm : String}, ledger.Shows id alarm →
    ledger.homes[alarm]? = some id) {id alarm : String} (shown : after.Shows id alarm) :
    after.homes[alarm]? = some id := by
  obtain ⟨holder, found, member⟩ := shown
  rw [takes.getElem?_homes]
  obtain ⟨same, rfl⟩ | ⟨_, found⟩ := takes.situations_cases found
  · rw [if_pos member, same]
  · have belongs := single ⟨holder, found, member⟩
    rw [if_neg, belongs]
    intro claimed
    rw [unclaimed_homeless claimed] at belongs
    contradiction

theorem housed (housed : ledger.Housed) : after.Housed where
  id_eq found := by
    obtain ⟨same, rfl⟩ | ⟨_, found⟩ := takes.situations_cases found
    · exact same
    · exact housed.id_eq found
  home_known belongs := by
    rw [takes.getElem?_homes] at belongs
    refine (takes.mem_situations _).mpr ?_
    split at belongs
    · exact .inl (Option.some.inj belongs)
    · exact .inr (housed.home_known belongs)

theorem coherent (coherent : ledger.Coherent) (keyed : situation.alarms.IsKeyed) :
    after.Coherent where
  id_eq := (takes.housed coherent.housed).id_eq
  keyed found := by
    obtain ⟨_, rfl⟩ | ⟨_, found⟩ := takes.situations_cases found
    · exact keyed.filter _
    · exact coherent.keyed found
  severity_eq found := by
    obtain ⟨_, rfl⟩ | ⟨_, found⟩ := takes.situations_cases found
    · rfl
    · exact coherent.severity_eq found
  home_of_shown := takes.home_of_shown coherent.home_of_shown
  home_known := (takes.housed coherent.housed).home_known
  exclusion_known member :=
    (takes.mem_situations _).mpr (.inr (coherent.exclusion_known (takes.exclusions_eq ▸ member)))

end Takes

/-- Whatever names the alarms of the situations have, those that a situation shows after loading
belong to it. -/
theorem home_of_shown_loadAll {situations : List Situation} {id alarm : String} :
    (loadAll {} situations).1.Shows id alarm →
      (loadAll {} situations).1.homes[alarm]? = some id := by
  rw [loadAll_eq]
  refine List.foldlRecOn situations _ (motive := fun (ledger : Ledger) =>
    ∀ {id alarm : String}, ledger.Shows id alarm → ledger.homes[alarm]? = some id)
    coherent_empty.home_of_shown fun ledger single situation _ id alarm shown => ?_
  obtain same | takes := ledger.load_cases situation
  · rw [same] at shown ⊢
    exact single shown
  · exact takes.home_of_shown single shown

section Delete

variable (ledger : Ledger) {id other alarm : String}

theorem getElem?_situations_delete {situation : Situation}
    (found : (ledger.delete id).situations[other]? = some situation) :
    id ≠ other ∧ ledger.situations[other]? = some situation := by
  simp only [delete, ExtTreeMap.getElem?_erase, LawfulEqOrd.compare_eq_iff_eq] at found
  split at found
  · contradiction
  · rename_i different
    exact ⟨different, found⟩

theorem mem_situations_delete (different : other ≠ id) (member : other ∈ ledger.situations) :
    other ∈ (ledger.delete id).situations :=
  ExtTreeMap.mem_erase.mpr ⟨by simpa using different.symm, member⟩

end Delete

namespace Housed

variable {ledger : Ledger}

theorem loadAll (housed : ledger.Housed) (situations : List Situation) :
    (ledger.loadAll situations).1.Housed := by
  rw [loadAll_eq]
  refine List.foldlRecOn situations _ (motive := fun (ledger : Ledger) => ledger.Housed) housed ?_
  intro ledger housed situation _
  obtain same | takes := ledger.load_cases situation
  · rw [same]
    exact housed
  · exact takes.housed housed

theorem delete (housed : ledger.Housed) (id : String) : (ledger.delete id).Housed where
  id_eq found := housed.id_eq (ledger.getElem?_situations_delete found).2
  home_known found := by
    simp only [Ledger.delete, ExtTreeMap.getElem?_filter', Option.filter_eq_some_iff,
      bne_iff_ne] at found
    exact ledger.mem_situations_delete found.2 (housed.home_known found.1)

end Housed

namespace Coherent

variable {ledger : Ledger}

theorem load (coherent : ledger.Coherent) {situation : Situation}
    (keyed : situation.alarms.IsKeyed) : (ledger.load situation).1.Coherent := by
  obtain same | takes := ledger.load_cases situation
  · rw [same]
    exact coherent
  · exact takes.coherent coherent keyed

theorem loadAll (coherent : ledger.Coherent) {situations : List Situation}
    (keyed : ∀ situation ∈ situations, situation.alarms.IsKeyed) :
    (ledger.loadAll situations).1.Coherent := by
  rw [loadAll_eq]
  induction situations generalizing ledger with
  | nil => exact coherent
  | cons first rest ih =>
    exact ih (coherent.load (keyed first (List.mem_cons_self ..)))
      fun situation member => keyed situation (List.mem_cons_of_mem _ member)

theorem delete (coherent : ledger.Coherent) (id : String) : (ledger.delete id).Coherent := by
  refine ⟨(coherent.housed.delete id).id_eq,
    fun found => coherent.keyed (ledger.getElem?_situations_delete found).2,
    fun found => coherent.severity_eq (ledger.getElem?_situations_delete found).2, ?_,
    (coherent.housed.delete id).home_known, ?_⟩
  · rintro other alarm ⟨situation, found, member⟩
    obtain ⟨different, found⟩ := ledger.getElem?_situations_delete found
    have belongs := coherent.home_of_shown ⟨situation, found, member⟩
    simp [Ledger.delete, belongs, different.symm]
  · intro other alarm member
    obtain ⟨present, different⟩ := ExtTreeSet.mem_filter.mp member
    refine ledger.mem_situations_delete ?_ (coherent.exclusion_known present)
    simpa using different

end Coherent
end Ledger
end FaultCorrelation
