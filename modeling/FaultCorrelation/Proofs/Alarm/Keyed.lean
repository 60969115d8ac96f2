import Mathlib.Data.List.Induction
import FaultCorrelation.Ledger.Draft
import FaultCorrelation.Proofs.Collections

/-! # Alarms under their own names

A map of alarms is keyed if every alarm in it stands under its own id. What drafts of situations do
to their alarms keeps the maps keyed, and is seen alarm by alarm: alarms put together replace the
earlier instances of their ids and nothing else.
-/

namespace FaultCorrelation

open Std

/-- Whether every alarm stands under its own id. -/
def AlarmMap.IsKeyed (alarms : AlarmMap) : Prop :=
  ∀ (id : String) (alarm : Alarm), alarms[id]? = some alarm → alarm.id = id

namespace AlarmMap.IsKeyed

variable {alarms : AlarmMap}

theorem empty : AlarmMap.IsKeyed ∅ := by
  intro id alarm found
  simp at found

theorem insert (keyed : alarms.IsKeyed) (alarm : Alarm) :
    AlarmMap.IsKeyed (ExtTreeMap.insert alarms alarm.id alarm) := by
  intro id other found
  simp only [ExtTreeMap.getElem?_insert, LawfulEqOrd.compare_eq_iff_eq] at found
  split at found
  · rename_i same
    rw [← Option.some.inj found, same]
  · exact keyed id other found

theorem erase (keyed : alarms.IsKeyed) (id : String) :
    AlarmMap.IsKeyed (ExtTreeMap.erase alarms id) := by
  intro other alarm found
  rw [ExtTreeMap.getElem?_erase] at found
  split at found
  · contradiction
  · exact keyed other alarm found

theorem filter (keyed : alarms.IsKeyed) (keep : String → Alarm → Bool) :
    AlarmMap.IsKeyed (ExtTreeMap.filter keep alarms) := by
  intro id alarm found
  rw [ExtTreeMap.getElem?_filter', Option.filter_eq_some_iff] at found
  exact keyed id alarm found.1

/-- The ids of the alarms in a keyed map are its keys. -/
theorem map_id_values (keyed : alarms.IsKeyed) : alarms.values.map Alarm.id = alarms.keys :=
  Collections.map_values_eq_keys keyed

end AlarmMap.IsKeyed

namespace SituationDraft

@[simp] theorem put_id (drafted : SituationDraft) (alarm : Alarm) :
    (drafted.put alarm).id = drafted.id := rfl

@[simp] theorem put_isNew (drafted : SituationDraft) (alarm : Alarm) :
    (drafted.put alarm).isNew = drafted.isNew := rfl

theorem getElem?_put (drafted : SituationDraft) (alarm : Alarm) (id : String) :
    (drafted.put alarm).alarms[id]? =
      if alarm.id = id then some alarm else drafted.alarms[id]? := by
  simp [put, ExtTreeMap.getElem?_insert]

theorem getElem?_erase (drafted : SituationDraft) (alarm id : String) :
    (drafted.erase alarm).alarms[id]? = if alarm = id then none else drafted.alarms[id]? := by
  simp [erase, ExtTreeMap.getElem?_erase]

@[simp] theorem putAll_nil (drafted : SituationDraft) : drafted.putAll [] = drafted := rfl

@[simp] theorem putAll_cons (drafted : SituationDraft) (alarm : Alarm) (rest : List Alarm) :
    drafted.putAll (alarm :: rest) = (drafted.put alarm).putAll rest := rfl

@[simp] theorem putAll_id (drafted : SituationDraft) (alarms : List Alarm) :
    (drafted.putAll alarms).id = drafted.id := by
  induction alarms generalizing drafted with
  | nil => rfl
  | cons alarm rest ih => rw [putAll_cons, ih, put_id]

@[simp] theorem putAll_isNew (drafted : SituationDraft) (alarms : List Alarm) :
    (drafted.putAll alarms).isNew = drafted.isNew := by
  induction alarms generalizing drafted with
  | nil => rfl
  | cons alarm rest ih => rw [putAll_cons, ih, put_isNew]

theorem putAll_keyed {drafted : SituationDraft} (keyed : drafted.alarms.IsKeyed)
    (alarms : List Alarm) : (drafted.putAll alarms).alarms.IsKeyed := by
  induction alarms generalizing drafted with
  | nil => exact keyed
  | cons alarm rest ih => exact ih (keyed.insert alarm)

/-- Alarms of other ids are not touched. -/
theorem getElem?_putAll_of_not_mem {alarms : List Alarm} {id : String}
    (absent : ∀ alarm ∈ alarms, alarm.id ≠ id) (drafted : SituationDraft) :
    (drafted.putAll alarms).alarms[id]? = drafted.alarms[id]? := by
  induction alarms generalizing drafted with
  | nil => rfl
  | cons alarm rest ih =>
    rw [putAll_cons, ih (fun other member => absent other (List.mem_cons_of_mem _ member)),
      getElem?_put, if_neg (absent alarm (List.mem_cons_self ..))]

/-- Of alarms with distinct ids each one is shown. -/
theorem getElem?_putAll_of_mem {alarms : List Alarm} {alarm : Alarm}
    (distinct : (alarms.map Alarm.id).Nodup) (member : alarm ∈ alarms)
    (drafted : SituationDraft) : (drafted.putAll alarms).alarms[alarm.id]? = some alarm := by
  induction alarms generalizing drafted with
  | nil => contradiction
  | cons first rest ih =>
    obtain ⟨fresh, distinct⟩ := List.nodup_cons.mp distinct
    rw [putAll_cons]
    rcases List.mem_cons.mp member with rfl | member
    · rw [getElem?_putAll_of_not_mem, getElem?_put, if_pos rfl]
      intro other member same
      exact fresh (same ▸ List.mem_map_of_mem member)
    · exact ih distinct member _

/-- The alarms of a keyed map, put together, come before what was shown. -/
theorem getElem?_putAll_values {alarms : AlarmMap} (keyed : alarms.IsKeyed)
    (drafted : SituationDraft) (id : String) :
    (drafted.putAll alarms.values).alarms[id]? = alarms[id]?.or drafted.alarms[id]? := by
  cases found : alarms[id]? with
  | some alarm =>
    have distinct : (alarms.values.map Alarm.id).Nodup := by
      rw [keyed.map_id_values]
      exact ExtTreeMap.nodup_keys
    have shown := getElem?_putAll_of_mem distinct (Collections.mem_values.mpr ⟨id, found⟩) drafted
    rwa [keyed id alarm found] at shown
  | none =>
    apply getElem?_putAll_of_not_mem
    intro alarm member same
    obtain ⟨key, present⟩ := Collections.mem_values.mp member
    rw [← keyed key alarm present, same, found] at present
    contradiction

theorem isSome_getElem?_putAll {alarms : List Alarm} {drafted : SituationDraft} {id : String} :
    ((drafted.putAll alarms).alarms[id]?).isSome ↔
      (drafted.alarms[id]?).isSome ∨ ∃ alarm ∈ alarms, alarm.id = id := by
  induction alarms generalizing drafted with
  | nil => simp
  | cons alarm rest ih =>
    rw [putAll_cons, ih, getElem?_put]
    by_cases same : alarm.id = id <;> simp [same]

/-- Of alarms that are put one is shown under each of their ids. -/
theorem exists_getElem?_putAll {alarms : List Alarm} {alarm : Alarm} (member : alarm ∈ alarms)
    (drafted : SituationDraft) : ∃ copy ∈ alarms, copy.id = alarm.id ∧
      (drafted.putAll alarms).alarms[alarm.id]? = some copy := by
  induction alarms using List.reverseRecOn with
  | nil => contradiction
  | append_singleton rest last ih =>
    have put : drafted.putAll (rest ++ [last]) = (drafted.putAll rest).put last :=
      List.foldl_append ..
    rw [put, getElem?_put]
    by_cases same : last.id = alarm.id
    · exact ⟨last, by simp, same, if_pos same⟩
    · have earlier : alarm ∈ rest := by
        rcases List.mem_append.mp member with earlier | here
        · exact earlier
        · exact absurd (congrArg Alarm.id (List.mem_singleton.mp here)).symm same
      obtain ⟨copy, among, named, shown⟩ := ih earlier
      exact ⟨copy, List.mem_append_left _ among, named, by rw [if_neg same, shown]⟩

/-- What is shown once alarms have been put is one of them, or was shown before. -/
theorem mem_of_getElem?_putAll {alarms : List Alarm} {drafted : SituationDraft} {id : String}
    {copy : Alarm} (found : (drafted.putAll alarms).alarms[id]? = some copy) :
    copy ∈ alarms ∧ copy.id = id ∨ drafted.alarms[id]? = some copy := by
  induction alarms generalizing drafted with
  | nil => exact .inr found
  | cons alarm rest ih =>
    rw [putAll_cons] at found
    rcases ih found with ⟨member, same⟩ | before
    · exact .inl ⟨List.mem_cons_of_mem _ member, same⟩
    · rw [getElem?_put] at before
      split at before
      · rename_i same
        obtain rfl := Option.some.inj before
        exact .inl ⟨List.mem_cons_self .., same⟩
      · exact .inr before

end SituationDraft
end FaultCorrelation
