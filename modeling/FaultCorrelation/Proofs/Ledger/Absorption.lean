import FaultCorrelation.Proofs.Ledger.Lodging
import FaultCorrelation.Proofs.Weight

/-! # Where an absorbed situation lands

The rules absorb situations only into one that is still there. A draft lets more be asked of it: any
situation may be absorbed into any other, also into one that was absorbed before, with all kinds of
changes in between (`Draft.Operation`). Redirections stay flat through all of this, so that what
points at the absorbed situation always comes to point at the one that the survivor stands for.

The alarms do not follow. They go into the draft of the survivor itself, and if that situation was
absorbed before, its draft is opened again and a commit brings it back. `Draft.LandsIn` holds just
if the survivor is still there, as long as no draft of an absorbed situation was opened otherwise.
-/

namespace FaultCorrelation

open Std

/-- A change of the alarms that a drafted situation shows. -/
inductive AlarmEdit where
  | put (alarm : Alarm)
  | erase (alarm : String)

namespace SituationDraft

/-- The draft of a situation after a change. -/
def edit (drafted : SituationDraft) : AlarmEdit → SituationDraft
  | .put alarm => drafted.put alarm
  | .erase alarm => drafted.erase alarm

/-- The draft of a situation after changes made in order. -/
def editAll (drafted : SituationDraft) (edits : List AlarmEdit) : SituationDraft :=
  edits.foldl edit drafted

@[simp] theorem editAll_id (drafted : SituationDraft) (edits : List AlarmEdit) :
    (drafted.editAll edits).id = drafted.id := by
  induction edits generalizing drafted with
  | nil => rfl
  | cons first rest ih => cases first <;> exact ih _

end SituationDraft

namespace Draft

/-- A change that may be asked of a draft. -/
inductive Operation where
  | revise (situation : Situation) (edits : List AlarmEdit)
  | reviseNew (id : String) (edits : List AlarmEdit)
  | associate (alarm situation : String)
  | disassociate (alarm : String)
  | exclude (situation alarm : String)
  | allow (situation alarm : String)
  | release (alarm : String)
  | absorb (absorbed survivor : Situation)

/-- The draft after a change. -/
def operate (draft : Draft) : Operation → Draft
  | .revise situation edits => draft.revise situation fun under => under.editAll edits
  | .reviseNew id edits => draft.reviseNew id fun under => under.editAll edits
  | .associate alarm situation => draft.associate alarm situation
  | .disassociate alarm => draft.disassociate alarm
  | .exclude situation alarm => draft.exclude situation alarm
  | .allow situation alarm => draft.readmit situation alarm
  | .release alarm => draft.release alarm
  | .absorb absorbed survivor => draft.absorb absorbed survivor

/-- The draft after changes made in order. -/
def operateAll (draft : Draft) (operations : List Operation) : Draft :=
  operations.foldl operate draft

variable {draft : Draft}

theorem IsFlat.operate (flat : draft.IsFlat) (operation : Operation) :
    (draft.operate operation).IsFlat := by
  cases operation with
  | absorb absorbed survivor => exact isFlat_absorb flat absorbed survivor
  | _ => exact flat

theorem IsNamed.operate (named : draft.IsNamed) (operation : Operation) :
    (draft.operate operation).IsNamed := by
  cases operation with
  | revise situation edits => exact named.revise (SituationDraft.editAll_id · edits) situation
  | reviseNew id edits =>
    apply named.store
    rw [SituationDraft.editAll_id, named.openedNew_id]
  | absorb absorbed survivor => exact named.absorb absorbed survivor
  | _ => exact named

variable (time : Int) (operations : List Operation)

theorem isFlat_operateAll : ((new time).operateAll operations).IsFlat := by
  refine List.foldlRecOn operations _ ?_ fun _ flat operation _ => flat.operate operation
  intro id target found
  simp [new] at found

theorem isNamed_operateAll : ((new time).operateAll operations).IsNamed := by
  refine List.foldlRecOn operations _ ?_ fun _ named operation _ => named.operate operation
  intro id drafted found
  simp [new] at found

/-- What absorbing a situation comes to if it lands in another. -/
structure LandsIn (draft : Draft) (absorbed : Situation) (home : String) (after : Draft) :
    Prop where
  /-- It stands for its new home from then on. -/
  resolves : after.resolve absorbed.id = home
  /-- For each alarm that it showed, its new home shows an instance that it showed. -/
  shows : ∀ alarm ∈ (draft.shown absorbed).values, ∃ drafted,
    after.situations[home]? = some drafted ∧ ∃ copy ∈ (draft.shown absorbed).values,
      copy.id = alarm.id ∧ drafted.alarms[alarm.id]? = some copy
  /-- What was to belong to it belongs to its new home. -/
  belongs : ∀ alarm : String, draft.homes[alarm]? = some (some absorbed.id) →
    after.homes[alarm]? = some (some home)
  /-- Nothing that was absorbed is being drafted. -/
  closed : ∀ id : String, id ∈ after.absorbed → id ∉ after.situations

section Absorb

variable {absorbed survivor : Situation} (apart : absorbed.id ≠ draft.resolve survivor.id)
include apart

theorem resolve_absorbed (flat : draft.IsFlat) :
    (draft.absorb absorbed survivor).resolve absorbed.id = draft.resolve survivor.id := by
  apply resolve_of_getElem? (isFlat_absorb flat absorbed survivor)
  rw [getElem?_absorbed_absorb_of_ne apart, if_pos rfl]

theorem homes_of_absorbed {alarm : String}
    (belongs : draft.homes[alarm]? = some (some absorbed.id)) :
    (draft.absorb absorbed survivor).homes[alarm]? = some (some (draft.resolve survivor.id)) := by
  rw [getElem?_homes_absorb_of_ne apart, belongs, Option.map_some, if_pos rfl]

/-- The draft of the survivor shows what the absorbed situation showed. -/
theorem exists_drafted_absorb : ∃ drafted,
    (draft.absorb absorbed survivor).situations[survivor.id]? = some drafted ∧
      ∀ alarm ∈ (draft.shown absorbed).values, ∃ copy ∈ (draft.shown absorbed).values,
        copy.id = alarm.id ∧ drafted.alarms[alarm.id]? = some copy := by
  rw [getElem?_situations_absorb_of_ne apart, if_pos rfl]
  exact ⟨_, rfl, fun _ member => SituationDraft.exists_getElem?_putAll member _⟩

/-- Where the survivor was absorbed before, the situation that it stands for gets nothing. -/
theorem situations_resolve_absorb (flat : draft.IsFlat) (before : survivor.id ∈ draft.absorbed) :
    (draft.absorb absorbed survivor).situations[draft.resolve survivor.id]? =
      draft.situations[draft.resolve survivor.id]? := by
  have elsewhere : survivor.id ≠ draft.resolve survivor.id := by
    intro same
    rw [same] at before
    exact resolve_not_mem flat survivor.id before
  rw [getElem?_situations_absorb_of_ne apart, if_neg elsewhere, if_neg apart]

/-- The absorbed situation lands in what the survivor stands for if that is the survivor, unless the
draft of a situation that was absorbed earlier is open. -/
theorem landsIn_iff (flat : draft.IsFlat) : draft.LandsIn absorbed (draft.resolve survivor.id)
      (draft.absorb absorbed survivor) ↔
    survivor.id ∉ draft.absorbed ∧
      ∀ id : String, id ∈ draft.situations → id ∈ draft.absorbed → id = absorbed.id := by
  have gone {id : String} : id ∈ (draft.absorb absorbed survivor).absorbed ↔
      absorbed.id = id ∨ id ∈ draft.absorbed := mem_absorbed_absorb_of_ne apart
  have drafting {id : String} : id ∈ (draft.absorb absorbed survivor).situations ↔
      survivor.id = id ∨ absorbed.id ≠ id ∧ id ∈ draft.situations :=
    mem_situations_absorb_of_ne apart
  constructor
  · intro lands
    refine ⟨fun before => ?_, fun id underway before => ?_⟩
    · exact lands.closed survivor.id (gone.mpr (.inr before)) (drafting.mpr (.inl rfl))
    · by_contra different
      exact lands.closed id (gone.mpr (.inr before))
        (drafting.mpr (.inr ⟨Ne.symm different, underway⟩))
  · rintro ⟨live, closed⟩
    refine ⟨resolve_absorbed apart flat, fun alarm member => ?_,
      fun alarm => homes_of_absorbed apart, fun id before underway => ?_⟩
    · obtain ⟨drafted, found, shows⟩ := exists_drafted_absorb apart
      rw [resolve_of_not_mem live]
      exact ⟨drafted, found, shows alarm member⟩
    · rw [resolve_of_not_mem live] at apart
      rcases drafting.mp underway with rfl | ⟨different, earlier⟩
      · exact (gone.mp before).elim apart live
      · exact different (closed id earlier ((gone.mp before).resolve_left different)).symm

end Absorb

variable {W : Type} [Weight W]

/-- After a commit those situations are there that were being drafted, and those of the ledger that
were not absorbed. -/
theorem IsNamed.mem_situations_commit (named : draft.IsNamed) (ledger : Ledger)
    (graph : Topology W) (cache : DistanceCache W) {id : String} :
    id ∈ ((ledger.commit draft graph).run cache).1.1.situations ↔
      id ∈ draft.situations ∨ id ∈ ledger.situations ∧ id ∉ draft.absorbed := by
  let situations := ((draft.situations.values.mapM (Ledger.finish graph)).run cache).1
  have finished : Ledger.Finished draft.situations.values situations :=
    Ledger.finish_all graph draft.situations.values cache
  have released : ((ledger.commit draft graph).run cache).1.1.situations =
      (situations.foldl Ledger.store (ledger.prepared draft)).situations := by
    change Ledger.situations (Ledger.applyReleases _ draft) = _
    rw [Ledger.applyReleases, ExtTreeSet.foldl_eq_foldl_toList]
    refine List.foldlRecOn _ _ (motive := fun (after : Ledger) => after.situations = _) rfl
      fun after same alarm _ => ?_
    rw [Ledger.applyRelease]
    split <;> exact same
  have stored : (∃ situation ∈ situations, situation.id = id) ↔ id ∈ draft.situations := by
    rw [← List.mem_map, finished.map_id_eq_keys named, ExtTreeMap.mem_keys]
  have prepared : id ∈ (ledger.prepared draft).situations ↔
      id ∈ ledger.situations ∧ id ∉ draft.absorbed := by
    change id ∈ (ledger.applyAbsorptions draft).situations ↔ _
    rw [ExtTreeMap.mem_iff_isSome_getElem?, Ledger.getElem?_situations_applyAbsorptions]
    by_cases absorbed : id ∈ draft.absorbed <;> simp [absorbed]
  rw [released, Ledger.mem_situations_foldl_store, stored, prepared, or_comm]

/-- After whatever was asked of a draft, an absorbed situation stands for what the survivor stands
for, and what was to belong to it belongs there. It lands there just if the survivor was still there
and no draft of an absorbed situation is open. Otherwise, if the survivor had been absorbed, its own
draft is opened and takes the alarms, the situation it stands for gets none of them, and a commit
puts the survivor back into the ledger. -/
theorem absorb_lands_iff (absorbed survivor : Situation)
    (apart : absorbed.id ≠ ((new time).operateAll operations).resolve survivor.id)
    (ledger : Ledger) (graph : Topology W) (cache : DistanceCache W) :
    let draft := (new time).operateAll operations
    let home := draft.resolve survivor.id
    let after := draft.absorb absorbed survivor
    (draft.LandsIn absorbed home after ↔ survivor.id ∉ draft.absorbed ∧
      ∀ id : String, id ∈ draft.situations → id ∈ draft.absorbed → id = absorbed.id) ∧
    after.resolve absorbed.id = home ∧
    (∀ alarm : String, draft.homes[alarm]? = some (some absorbed.id) →
      after.homes[alarm]? = some (some home)) ∧
    (∀ id : String, id ∈ after.absorbed →
      (id ∈ ((ledger.commit after graph).run cache).1.1.situations ↔ id ∈ after.situations)) ∧
    (survivor.id ∈ draft.absorbed →
      after.situations[home]? = draft.situations[home]? ∧
      survivor.id ∈ ((ledger.commit after graph).run cache).1.1.situations ∧
      ∃ drafted, after.situations[survivor.id]? = some drafted ∧
        ∀ alarm ∈ (draft.shown absorbed).values, alarm.id ∈ drafted.alarms) := by
  intro draft home after
  have flat : draft.IsFlat := isFlat_operateAll time operations
  have named : after.IsNamed := (isNamed_operateAll time operations).absorb absorbed survivor
  obtain ⟨drafted, found, shows⟩ := exists_drafted_absorb apart
  refine ⟨landsIn_iff apart flat, resolve_absorbed apart flat, fun alarm => homes_of_absorbed apart,
    fun id gone => ?_, fun before => ⟨situations_resolve_absorb apart flat before, ?_,
      drafted, found, fun alarm member => ?_⟩⟩
  · rw [named.mem_situations_commit]
    exact or_iff_left fun kept => kept.2 gone
  · rw [named.mem_situations_commit]
    exact .inl (Collections.mem_of_getElem? found)
  · obtain ⟨copy, _, _, shown⟩ := shows alarm member
    exact Collections.mem_of_getElem? shown

/-- A situation that shows one alarm. -/
private def showing (id : String) (created : Int) (alarm : String) : Situation :=
  (Situation.new id created).withAlarm ⟨alarm, 0, .major, none, none⟩

/-- Situation `s` is absorbed into `u`; `t` is revised meanwhile, and one more alarm is to belong to
it. -/
private def earlier : List Operation :=
  [.revise (showing "t" 2 "c") [.put ⟨"d", 5, .minor, none, none⟩],
    .absorb (showing "s" 1 "b") (showing "u" 0 "a"), .associate "e" "t"]

/-- Absorbed into `u` itself, `t` lands there. -/
theorem absorb_lands_iff_joined :
    let draft := (new 9).operateAll earlier
    "t" ≠ draft.resolve "u" ∧
      draft.LandsIn (showing "t" 2 "c") "u"
        (draft.absorb (showing "t" 2 "c") (showing "u" 0 "a")) := by
  have apart : "t" ≠ ((new 9).operateAll earlier).resolve "u" := by decide +kernel
  have drafting : ((new 9).operateAll earlier).situations.keys = ["t", "u"] := by decide +kernel
  have live : "u" ∉ ((new 9).operateAll earlier).absorbed := by decide +kernel
  have lands := (absorb_lands_iff 9 earlier (showing "t" 2 "c") (showing "u" 0 "a") apart {}
    ({ weights := ⟨1, 2, 4⟩ } : Topology ℚ) (.ofCapacity 1)).1.mpr
      ⟨live, fun id underway gone => ?_⟩
  · exact ⟨apart, resolve_of_not_mem live ▸ lands⟩
  · rw [← ExtTreeMap.mem_keys, drafting] at underway
    simp only [List.mem_cons, List.not_mem_nil, or_false] at underway
    rcases underway with rfl | rfl
    · rfl
    · exact absurd gone live

/-- Absorbed into `s`, which stands for `u` by then, `t` is not with `u`: its alarm is shown by `s`,
the draft of which is opened again. -/
theorem absorbed_survivor_reopened :
    let draft := (new 9).operateAll [.absorb (showing "s" 1 "b") (showing "u" 0 "a")]
    let after := draft.absorb (showing "t" 2 "c") (showing "s" 1 "b")
    draft.resolve "s" = "u" ∧ "t" ≠ "u" ∧
      (after.situations["u"]?.map fun drafted => drafted.alarms.keys) = some ["a", "b"] ∧
      (after.situations["s"]?.map fun drafted => drafted.alarms.keys) = some ["b", "c"] ∧
      ¬ draft.LandsIn (showing "t" 2 "c") "u" after := by
  refine ⟨by decide +kernel, by decide, by decide +kernel, by decide +kernel, fun lands => ?_⟩
  exact lands.closed "s" (by decide +kernel) (by decide +kernel)

end Draft
end FaultCorrelation
