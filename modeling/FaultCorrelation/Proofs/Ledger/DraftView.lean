import FaultCorrelation.Proofs.Ledger.Coherence

/-! # What a draft shows

A draft is looked at through three questions: which situation an id stands for (`resolve`), which
copy of an alarm a situation shows (`copy?`), and where an alarm belongs (`homeOf?`). Each
elementary change of a draft has one equation for each question it bears on; what it does not bear
on holds by definition and is left to `simp`.

Redirections are flat when no situation is sent to one that is itself absorbed. Then they are
followed in one step.
-/

namespace FaultCorrelation.Draft

open Std

variable {draft : Draft} {ledger : Ledger} {situation : Situation}

/-- The copy of an alarm that a situation shows: the one in its draft, else the one in the ledger.
An absorbed situation shows nothing. -/
def copy? (draft : Draft) (ledger : Ledger) (id alarm : String) : Option Alarm :=
  if id ∈ draft.absorbed then none
  else draft.situations[id]?.elim (ledger.copy? id alarm) fun drafted => drafted.alarms[alarm]?

/-- Whether no situation is sent to an absorbed one. -/
def IsFlat (draft : Draft) : Prop :=
  ∀ id target : String, draft.absorbed[id]? = some target → target ∉ draft.absorbed

/-- Whether every draft of a situation stands under the situation's own id. -/
def IsNamed (draft : Draft) : Prop :=
  ∀ (id : String) (drafted : SituationDraft), draft.situations[id]? = some drafted →
    drafted.id = id

theorem follow_of_not_mem {absorbed : ExtTreeMap String String} {id : String}
    (live : id ∉ absorbed) (steps : Nat) : follow absorbed steps id = id := by
  cases steps with
  | zero => rfl
  | succ steps => simp [follow, ExtTreeMap.getElem?_eq_none live]

theorem resolve_of_not_mem {id : String} (live : id ∉ draft.absorbed) : draft.resolve id = id :=
  follow_of_not_mem live _

theorem resolve_of_getElem? (flat : draft.IsFlat) {id target : String}
    (found : draft.absorbed[id]? = some target) : draft.resolve id = target := by
  have nonempty : draft.absorbed.size ≠ 0 := by
    intro empty
    rw [← ExtTreeMap.eq_empty_iff_size_eq_zero] at empty
    simp [empty] at found
  obtain ⟨steps, size⟩ := Nat.exists_eq_succ_of_ne_zero nonempty
  rw [resolve, size]
  simp only [follow, found]
  exact follow_of_not_mem (flat id target found) steps

theorem resolve_eq (flat : draft.IsFlat) (id : String) :
    draft.resolve id = draft.absorbed[id]?.getD id := by
  cases found : draft.absorbed[id]? with
  | none => exact resolve_of_not_mem (by simpa using found)
  | some target => exact resolve_of_getElem? flat found

theorem resolve_not_mem (flat : draft.IsFlat) (id : String) :
    draft.resolve id ∉ draft.absorbed := by
  rw [resolve_eq flat]
  cases found : draft.absorbed[id]? with
  | none => simpa using found
  | some target => exact flat id target found

theorem resolve_resolve (flat : draft.IsFlat) (id : String) :
    draft.resolve (draft.resolve id) = draft.resolve id :=
  resolve_of_not_mem (resolve_not_mem flat id)

theorem resolve_congr {other : Draft} (same : draft.absorbed = other.absorbed) (id : String) :
    draft.resolve id = other.resolve id := by
  rw [resolve, resolve, same]

@[simp] theorem copy?_new (time : Int) (id alarm : String) :
    (new time).copy? ledger id alarm = ledger.copy? id alarm := by
  simp [copy?, new]

@[simp] theorem resolve_new (time : Int) (id : String) : (new time).resolve id = id :=
  resolve_of_not_mem (by simp [new])

@[simp] theorem homeOf?_new (time : Int) (alarm : String) :
    (new time).homeOf? ledger alarm = ledger.homes[alarm]? := by
  cases found : ledger.homes[alarm]? with
  | none => simp [homeOf?, new, found]
  | some home => simpa [homeOf?, new, found] using resolve_new time home

theorem homeOf?_of_drafted {alarm : String} {home : Option String}
    (found : draft.homes[alarm]? = some home) :
    draft.homeOf? ledger alarm = home.map draft.resolve := by
  simp [homeOf?, found]

theorem homeOf?_of_ledger {alarm : String} (found : draft.homes[alarm]? = none) :
    draft.homeOf? ledger alarm = ledger.homes[alarm]?.map draft.resolve := by
  simp [homeOf?, found]

theorem homeOf?_congr {other : Draft} (homes : draft.homes = other.homes)
    (absorbed : draft.absorbed = other.absorbed) (alarm : String) :
    draft.homeOf? ledger alarm = other.homeOf? ledger alarm := by
  have same : draft.resolve = other.resolve := funext (resolve_congr absorbed)
  rw [homeOf?, homeOf?, homes, same]

@[simp] theorem homeOf?_associate (alarm home other : String) :
    (draft.associate alarm home).homeOf? ledger other =
      if alarm = other then some (draft.resolve home) else draft.homeOf? ledger other := by
  have same : (draft.associate alarm home).resolve = draft.resolve := rfl
  rw [homeOf?, same]
  by_cases equal : alarm = other <;> simp [associate, ExtTreeMap.getElem?_insert, equal, homeOf?]

theorem opened_of_getElem? {drafted : SituationDraft}
    (found : draft.situations[situation.id]? = some drafted) :
    draft.opened situation = drafted := by
  rw [opened, ExtTreeMap.getD_eq_getD_getElem?, found, Option.getD_some]

theorem opened_of_not_mem (absent : situation.id ∉ draft.situations) :
    draft.opened situation = .ofSituation situation := by
  rw [opened, ExtTreeMap.getD_eq_getD_getElem?, ExtTreeMap.getElem?_eq_none absent,
    Option.getD_none]

/-- An opened draft of a situation in the ledger shows what the situation shows. -/
theorem getElem?_opened (known : ledger.situations[situation.id]? = some situation)
    (live : situation.id ∉ draft.absorbed) (alarm : String) :
    (draft.opened situation).alarms[alarm]? = draft.copy? ledger situation.id alarm := by
  rw [copy?, if_neg live]
  cases found : draft.situations[situation.id]? with
  | none =>
    rw [opened_of_not_mem (by simpa using found)]
    simp [SituationDraft.ofSituation, Ledger.copy?, known]
  | some drafted =>
    rw [opened_of_getElem? found]
    rfl

theorem getElem?_shown (known : ledger.situations[situation.id]? = some situation)
    (live : situation.id ∉ draft.absorbed) (alarm : String) :
    (draft.shown situation)[alarm]? = draft.copy? ledger situation.id alarm := by
  rw [shown, copy?, if_neg live]
  cases found : draft.situations[situation.id]? with
  | none => simp [Ledger.copy?, known]
  | some drafted => rfl

namespace IsNamed

variable (named : draft.IsNamed)
include named

theorem opened_id (situation : Situation) : (draft.opened situation).id = situation.id := by
  cases found : draft.situations[situation.id]? with
  | some drafted => rw [opened_of_getElem? found, named _ _ found]
  | none =>
    rw [opened_of_not_mem (by simpa using found)]
    rfl

theorem openedNew_id (id : String) : (draft.openedNew id).id = id := by
  rw [openedNew, ExtTreeMap.getD_eq_getD_getElem?]
  cases found : draft.situations[id]? with
  | some drafted => exact named _ _ found
  | none => rfl

theorem store {id : String} {drafted : SituationDraft} (own : drafted.id = id) :
    (draft.store id drafted).IsNamed := by
  intro other found present
  simp only [Draft.store, ExtTreeMap.getElem?_insert, LawfulEqOrd.compare_eq_iff_eq] at present
  split at present
  · rename_i same
    rw [← Option.some.inj present, own, same]
  · exact named _ _ present

theorem erase (id : String) :
    ({ draft with situations := draft.situations.erase id } : Draft).IsNamed := by
  intro other drafted found
  simp only [ExtTreeMap.getElem?_erase] at found
  split at found
  · contradiction
  · exact named _ _ found

/-- Changing the alarms that a situation shows. -/
theorem revise {change : SituationDraft → SituationDraft}
    (kept : ∀ drafted, (change drafted).id = drafted.id) (situation : Situation) :
    (draft.revise situation change).IsNamed :=
  named.store ((kept _).trans (named.opened_id situation))

theorem absorb (other survivor : Situation) : (draft.absorb other survivor).IsNamed := by
  rw [Draft.absorb]
  dsimp only
  split
  · exact named
  · have revised := (named.erase other.id).revise
      (SituationDraft.putAll_id · (draft.shown other).values) survivor
    exact revised

end IsNamed

theorem copy?_store {id : String} (live : id ∉ draft.absorbed) (drafted : SituationDraft)
    (other alarm : String) : (draft.store id drafted).copy? ledger other alarm =
      if id = other then drafted.alarms[alarm]? else draft.copy? ledger other alarm := by
  by_cases same : id = other
  · subst same
    simp [copy?, store, live]
  · simp [copy?, store, ExtTreeMap.getElem?_insert, same]

@[simp] theorem homeOf?_store (id alarm : String) (drafted : SituationDraft) :
    (draft.store id drafted).homeOf? ledger alarm = draft.homeOf? ledger alarm :=
  homeOf?_congr rfl rfl alarm

@[simp] theorem homeOf?_revise (change : SituationDraft → SituationDraft) (alarm : String) :
    (draft.revise situation change).homeOf? ledger alarm = draft.homeOf? ledger alarm :=
  homeOf?_congr rfl rfl alarm

theorem copy?_put (known : ledger.situations[situation.id]? = some situation)
    (live : situation.id ∉ draft.absorbed) (alarm : Alarm) (id other : String) :
    (draft.revise situation fun under => under.put alarm).copy? ledger id other =
      if situation.id = id ∧ alarm.id = other then some alarm
      else draft.copy? ledger id other := by
  rw [revise, copy?_store live, SituationDraft.getElem?_put]
  by_cases same : situation.id = id
  · subst same
    simp [getElem?_opened known live]
  · simp [same]

theorem copy?_erase (known : ledger.situations[situation.id]? = some situation)
    (live : situation.id ∉ draft.absorbed) (alarm id other : String) :
    (draft.revise situation fun under => under.erase alarm).copy? ledger id other =
      if situation.id = id ∧ alarm = other then none else draft.copy? ledger id other := by
  rw [revise, copy?_store live, SituationDraft.getElem?_erase]
  by_cases same : situation.id = id
  · subst same
    simp [getElem?_opened known live]
  · simp [same]

section Absorb

variable {other survivor : Situation}

section Resolved

variable (apart : other.id ≠ draft.resolve survivor.id)
include apart

/-- Absorbing into a situation that may have been absorbed itself: the alarms go into its draft, and
everything else to the situation that it stands for. -/
theorem absorb_of_ne : draft.absorb other survivor =
    (({ draft with situations := draft.situations.erase other.id }.revise survivor fun under =>
      under.putAll (draft.shown other).values).redirect other.id (draft.resolve survivor.id)) := by
  rw [absorb, if_neg apart]

theorem getElem?_homes_absorb_of_ne (alarm : String) :
    (draft.absorb other survivor).homes[alarm]? = draft.homes[alarm]?.map fun home =>
      if home = some other.id then some (draft.resolve survivor.id) else home := by
  rw [absorb_of_ne apart]
  simp [redirect, revise, store]

theorem getElem?_absorbed_absorb_of_ne (id : String) :
    (draft.absorb other survivor).absorbed[id]? =
      if other.id = id then some (draft.resolve survivor.id)
      else draft.absorbed[id]?.map fun home =>
        if home = other.id then draft.resolve survivor.id else home := by
  rw [absorb_of_ne apart]
  simp [redirect, ExtTreeMap.getElem?_insert, revise, store]

theorem mem_absorbed_absorb_of_ne {id : String} :
    id ∈ (draft.absorb other survivor).absorbed ↔ other.id = id ∨ id ∈ draft.absorbed := by
  rw [ExtTreeMap.mem_iff_isSome_getElem?, getElem?_absorbed_absorb_of_ne apart]
  by_cases same : other.id = id <;> simp [same]

theorem getElem?_situations_absorb_of_ne (id : String) :
    (draft.absorb other survivor).situations[id]? =
      if survivor.id = id then
        some (({ draft with situations := draft.situations.erase other.id }.opened survivor).putAll
          (draft.shown other).values)
      else if other.id = id then none else draft.situations[id]? := by
  rw [absorb_of_ne apart]
  simp [redirect, revise, store, ExtTreeMap.getElem?_insert, ExtTreeMap.getElem?_erase]

theorem mem_situations_absorb_of_ne {id : String} :
    id ∈ (draft.absorb other survivor).situations ↔
      survivor.id = id ∨ other.id ≠ id ∧ id ∈ draft.situations := by
  rw [ExtTreeMap.mem_iff_isSome_getElem?, getElem?_situations_absorb_of_ne apart]
  by_cases same : survivor.id = id
  · simp [same]
  · by_cases gone : other.id = id <;> simp [same, gone]

end Resolved

/-- Redirections stay flat, whatever is absorbed into what. -/
theorem isFlat_absorb (flat : draft.IsFlat) (other survivor : Situation) :
    (draft.absorb other survivor).IsFlat := by
  by_cases self : other.id = draft.resolve survivor.id
  · rwa [absorb, if_pos self]
  have target := resolve_not_mem flat survivor.id
  intro id home found
  rw [getElem?_absorbed_absorb_of_ne self] at found
  rw [mem_absorbed_absorb_of_ne self]
  rintro (same | member)
  · split at found
    · exact self (same.trans (Option.some.inj found).symm)
    · obtain ⟨_, _, renamed⟩ := Option.map_eq_some_iff.mp found
      split at renamed
      · exact self (same.trans renamed.symm)
      · rename_i different
        exact different (renamed.trans same.symm)
  · split at found
    · exact target (Option.some.inj found ▸ member)
    · obtain ⟨previous, present, renamed⟩ := Option.map_eq_some_iff.mp found
      split at renamed
      · exact target (renamed ▸ member)
      · exact flat id previous present (renamed ▸ member)

variable (known : ledger.situations[other.id]? = some other)
  (survives : ledger.situations[survivor.id]? = some survivor) (live : other.id ∉ draft.absorbed)
  (target : survivor.id ∉ draft.absorbed) (distinct : other.id ≠ survivor.id)

include target distinct

/-- A situation that is still there stands for itself. -/
private theorem ne_resolve : other.id ≠ draft.resolve survivor.id := by
  rwa [resolve_of_not_mem target]

/-- Absorbing a situation that is still there into another that is still there. -/
theorem absorb_eq : draft.absorb other survivor =
    (({ draft with situations := draft.situations.erase other.id }.revise survivor fun under =>
      under.putAll (draft.shown other).values).redirect other.id survivor.id) := by
  rw [absorb_of_ne (ne_resolve target distinct), resolve_of_not_mem target]

theorem exclusions_absorb : (draft.absorb other survivor).exclusions =
    draft.exclusions.redirect other.id survivor.id := by
  rw [absorb_eq target distinct]
  rfl

theorem inclusions_absorb : (draft.absorb other survivor).inclusions = draft.inclusions := by
  rw [absorb_eq target distinct]
  rfl

theorem getElem?_homes_absorb (alarm : String) : (draft.absorb other survivor).homes[alarm]? =
    draft.homes[alarm]?.map fun home =>
      if home = some other.id then some survivor.id else home := by
  rw [getElem?_homes_absorb_of_ne (ne_resolve target distinct), resolve_of_not_mem target]

theorem getElem?_absorbed_absorb (id : String) : (draft.absorb other survivor).absorbed[id]? =
    if other.id = id then some survivor.id
    else draft.absorbed[id]?.map fun home => if home = other.id then survivor.id else home := by
  rw [getElem?_absorbed_absorb_of_ne (ne_resolve target distinct), resolve_of_not_mem target]

theorem mem_absorbed_absorb {id : String} : id ∈ (draft.absorb other survivor).absorbed ↔
    other.id = id ∨ id ∈ draft.absorbed :=
  mem_absorbed_absorb_of_ne (ne_resolve target distinct)

theorem getElem?_situations_absorb (id : String) :
    (draft.absorb other survivor).situations[id]? =
      if survivor.id = id then
        some ((draft.opened survivor).putAll (draft.shown other).values)
      else if other.id = id then none else draft.situations[id]? := by
  have opened : ({ draft with situations := draft.situations.erase other.id }).opened survivor =
      draft.opened survivor := by
    simp [Draft.opened, ExtTreeMap.getD_erase, distinct]
  rw [getElem?_situations_absorb_of_ne (ne_resolve target distinct), opened]

theorem mem_situations_absorb {id : String} : id ∈ (draft.absorb other survivor).situations ↔
    survivor.id = id ∨ other.id ≠ id ∧ id ∈ draft.situations :=
  mem_situations_absorb_of_ne (ne_resolve target distinct)

include live

theorem resolve_absorb (flat : draft.IsFlat) (id : String) :
    (draft.absorb other survivor).resolve id =
      if draft.resolve id = other.id then survivor.id else draft.resolve id := by
  rw [resolve_eq (isFlat_absorb flat other survivor), getElem?_absorbed_absorb target distinct,
    resolve_eq flat]
  by_cases same : other.id = id
  · subst same
    simp [ExtTreeMap.getElem?_eq_none live]
  · cases found : draft.absorbed[id]? with
    | none => simp [same, Ne.symm same]
    | some home => simp [same]

theorem homeOf?_absorb (flat : draft.IsFlat) (alarm : String) :
    (draft.absorb other survivor).homeOf? ledger alarm =
      (draft.homeOf? ledger alarm).map fun home =>
        if home = other.id then survivor.id else home := by
  have resolved (id : String) := resolve_absorb live target distinct flat id
  have homes := getElem?_homes_absorb target distinct alarm
  cases found : draft.homes[alarm]? with
  | none =>
    rw [homeOf?_of_ledger (by rw [homes, found]; rfl), homeOf?_of_ledger found, Option.map_map]
    exact congrArg (Option.map · _) (funext resolved)
  | some home =>
    rw [homeOf?_of_drafted (by rw [homes, found]; rfl), homeOf?_of_drafted found]
    cases home with
    | none => simp
    | some home =>
      by_cases same : home = other.id
      · subst same
        simp [resolved, resolve_of_not_mem live, resolve_of_not_mem target, Ne.symm distinct]
      · simp [same, resolved]

include known survives

theorem copy?_absorb (keyed : (draft.shown other).IsKeyed) (id alarm : String) :
    (draft.absorb other survivor).copy? ledger id alarm =
      if other.id = id then none
      else if survivor.id = id then
        (draft.copy? ledger other.id alarm).or (draft.copy? ledger survivor.id alarm)
      else draft.copy? ledger id alarm := by
  rw [copy?]
  simp only [mem_absorbed_absorb target distinct, getElem?_situations_absorb target distinct]
  by_cases absorbed : other.id = id
  · simp [absorbed]
  by_cases same : survivor.id = id
  · subst same
    simp only [absorbed, target, or_self, if_false, if_true, Option.elim_some,
      SituationDraft.getElem?_putAll_values keyed, getElem?_opened survives target,
      getElem?_shown known live]
  · simp [absorbed, same, copy?]

end Absorb

end FaultCorrelation.Draft
