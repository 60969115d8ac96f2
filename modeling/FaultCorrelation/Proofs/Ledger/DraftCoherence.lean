import FaultCorrelation.Proofs.Ledger.DraftView

/-! # Coherent drafts

A draft is coherent with a ledger if its look-ups answer as a coherent ledger would: drafts of
situations stand under their own ids, redirections and memberships lead to situations that exist,
and the alarms that a situation shows belong to it. A new draft is coherent, and so is what every
elementary change makes of a coherent one, as far as the change finds alarms where they belong.
-/

namespace FaultCorrelation.Draft

open Std

variable {ledger : Ledger} {draft : Draft}

theorem hasSituation_iff {id : String} : draft.hasSituation ledger id ↔
    id ∉ draft.absorbed ∧ (id ∈ draft.situations ∨ id ∈ ledger.situations) := by
  rw [hasSituation, Bool.and_eq_true, Bool.or_eq_true, Bool.not_eq_true', ← Bool.not_eq_true]
  simp only [← ExtTreeMap.mem_iff_contains]

/-- What every draft of a tick is like. -/
structure Coherent (ledger : Ledger) (draft : Draft) : Prop where
  id_eq {id : String} {drafted : SituationDraft} :
    draft.situations[id]? = some drafted → drafted.id = id
  keyed {id : String} {drafted : SituationDraft} :
    draft.situations[id]? = some drafted → drafted.alarms.IsKeyed
  live {id : String} : id ∈ draft.situations → id ∉ draft.absorbed
  absorbed_known {id target : String} : draft.absorbed[id]? = some target →
    id ∈ ledger.situations ∧ draft.hasSituation ledger target
  home_known {alarm : String} {home : Option String} : draft.homes[alarm]? = some home →
    ∃ id, home = some id ∧ draft.hasSituation ledger id
  home_of_shown {id alarm : String} :
    (draft.copy? ledger id alarm).isSome → draft.homeOf? ledger alarm = some id

theorem coherent_new (grounded : ledger.Orderly) (time : Int) : (new time).Coherent ledger where
  id_eq found := by simp [new] at found
  keyed found := by simp [new] at found
  live member := by simp [new] at member
  absorbed_known found := by simp [new] at found
  home_known found := by simp [new] at found
  home_of_shown shown := by
    rw [copy?_new, ← Ledger.shows_iff] at shown
    rw [homeOf?_new, grounded.home_of_shown shown]

theorem copy?_of_underway (coherent : draft.Coherent ledger) {id : String}
    {drafted : SituationDraft} (underway : draft.situations[id]? = some drafted)
    (alarm : String) : draft.copy? ledger id alarm = drafted.alarms[alarm]? := by
  have live := coherent.live (Collections.mem_of_getElem? underway)
  rw [copy?, if_neg live, underway, Option.elim_some]

namespace Coherent

variable (coherent : draft.Coherent ledger)
include coherent

theorem flat : draft.IsFlat := fun _ _ found =>
  (hasSituation_iff.mp (coherent.absorbed_known found).2).1

/-- What a situation of the ledger has ended up in is there. -/
theorem hasSituation_resolve {id : String} (known : id ∈ ledger.situations) :
    draft.hasSituation ledger (draft.resolve id) := by
  rw [resolve_eq coherent.flat]
  cases redirected : draft.absorbed[id]? with
  | some target => exact (coherent.absorbed_known redirected).2
  | none => exact hasSituation_iff.mpr ⟨by simpa using redirected, .inr known⟩

/-- An alarm belongs to a situation that is there. -/
theorem hasSituation_of_homeOf? (grounded : ledger.Orderly) {alarm id : String}
    (home : draft.homeOf? ledger alarm = some id) : draft.hasSituation ledger id := by
  cases drafted : draft.homes[alarm]? with
  | some found =>
    obtain ⟨target, rfl, there⟩ := coherent.home_known drafted
    rw [homeOf?_of_drafted drafted, Option.map_some,
      resolve_of_not_mem (hasSituation_iff.mp there).1] at home
    exact Option.some.inj home ▸ there
  | none =>
    rw [homeOf?_of_ledger drafted] at home
    obtain ⟨source, belongs, rfl⟩ := Option.map_eq_some_iff.mp home
    exact coherent.hasSituation_resolve (grounded.home_known belongs)

theorem live_of_homeOf? (grounded : ledger.Orderly) {alarm id : String}
    (home : draft.homeOf? ledger alarm = some id) : id ∉ draft.absorbed :=
  (hasSituation_iff.mp (coherent.hasSituation_of_homeOf? grounded home)).1

/-- An alarm that belongs nowhere is shown nowhere. -/
theorem copy?_of_homeOf?_none {alarm : String} (homeless : draft.homeOf? ledger alarm = none)
    (id : String) : draft.copy? ledger id alarm = none := by
  rw [Option.eq_none_iff_forall_not_mem]
  intro copy found
  have home := coherent.home_of_shown (Option.isSome_of_mem found)
  rw [homeless] at home
  contradiction

/-- Changes of exclusions and releases do not bear on coherence. -/
theorem congr {other : Draft} (situations : other.situations = draft.situations)
    (homes : other.homes = draft.homes) (absorbed : other.absorbed = draft.absorbed) :
    other.Coherent ledger := by
  have copies (id alarm : String) :
      other.copy? ledger id alarm = draft.copy? ledger id alarm := by
    rw [copy?, copy?, situations, absorbed]
  have has (id : String) : other.hasSituation ledger id = draft.hasSituation ledger id := by
    rw [hasSituation, hasSituation, situations, absorbed]
  exact {
    id_eq := fun found => coherent.id_eq (situations ▸ found)
    keyed := fun found => coherent.keyed (situations ▸ found)
    live := fun member => absorbed ▸ coherent.live (situations ▸ member)
    absorbed_known := fun found => by
      rw [has]
      exact coherent.absorbed_known (absorbed ▸ found)
    home_known := fun found => by
      simp only [has]
      exact coherent.home_known (homes ▸ found)
    home_of_shown := fun shown => by
      rw [copies] at shown
      rw [homeOf?_congr homes absorbed]
      exact coherent.home_of_shown shown }

theorem exclude (situation alarm : String) : (draft.exclude situation alarm).Coherent ledger :=
  coherent.congr rfl rfl rfl

theorem readmit (situation alarm : String) : (draft.readmit situation alarm).Coherent ledger :=
  coherent.congr rfl rfl rfl

theorem release (alarm : String) : (draft.release alarm).Coherent ledger :=
  coherent.congr rfl rfl rfl

/-- A draft of a situation may show what belongs to the situation. -/
theorem store {id : String} {drafted : SituationDraft} (live : id ∉ draft.absorbed)
    (named : drafted.id = id) (keyed : drafted.alarms.IsKeyed)
    (shown : ∀ alarm : String, (drafted.alarms[alarm]?).isSome →
      draft.homeOf? ledger alarm = some id) :
    (draft.store id drafted).Coherent ledger := by
  have lookup (other : String) : (draft.store id drafted).situations[other]? =
      if id = other then some drafted else draft.situations[other]? := by
    simp [Draft.store, ExtTreeMap.getElem?_insert]
  have grows {other : String} (there : draft.hasSituation ledger other) :
      (draft.store id drafted).hasSituation ledger other := by
    rw [hasSituation_iff] at there ⊢
    exact ⟨there.1, there.2.imp_left fun member => ExtTreeMap.mem_insert.mpr (.inr member)⟩
  refine ⟨?_, ?_, ?_, ?_, ?_, ?_⟩
  · intro other found present
    rw [lookup] at present
    split at present
    · rename_i same
      rw [← Option.some.inj present, named, same]
    · exact coherent.id_eq present
  · intro other found present
    rw [lookup] at present
    split at present
    · rw [← Option.some.inj present]
      exact keyed
    · exact coherent.keyed present
  · intro other member
    rcases ExtTreeMap.mem_insert.mp member with same | member
    · rw [LawfulEqOrd.compare_eq_iff_eq] at same
      exact same ▸ live
    · exact coherent.live member
  · intro other target found
    exact (coherent.absorbed_known found).imp_right grows
  · intro alarm home found
    obtain ⟨target, rfl, there⟩ := coherent.home_known found
    exact ⟨target, rfl, grows there⟩
  · intro other alarm present
    rw [copy?_store live] at present
    rw [homeOf?_store]
    split at present
    · rename_i same
      rw [← same]
      exact shown alarm present
    · exact coherent.home_of_shown present

theorem opened (grounded : ledger.Orderly) {situation : Situation}
    (known : ledger.situations[situation.id]? = some situation) :
    (draft.opened situation).id = situation.id ∧ (draft.opened situation).alarms.IsKeyed := by
  cases found : draft.situations[situation.id]? with
  | some drafted =>
    rw [opened_of_getElem? found]
    exact ⟨coherent.id_eq found, coherent.keyed found⟩
  | none =>
    rw [opened_of_not_mem (by simpa using found)]
    exact ⟨rfl, grounded.keyed known⟩

theorem shown (grounded : ledger.Orderly) {situation : Situation}
    (known : ledger.situations[situation.id]? = some situation) :
    (draft.shown situation).IsKeyed := by
  rw [Draft.shown]
  cases found : draft.situations[situation.id]? with
  | none => exact grounded.keyed known
  | some drafted => exact coherent.keyed found

/-- The draft of a situation in the ledger may come to show what belongs to the situation. -/
theorem revise (grounded : ledger.Orderly) {situation : Situation}
    (known : ledger.situations[situation.id]? = some situation)
    (live : situation.id ∉ draft.absorbed) (change : SituationDraft → SituationDraft)
    (named : ∀ drafted, (change drafted).id = drafted.id)
    (keyed : ∀ drafted, drafted.alarms.IsKeyed → (change drafted).alarms.IsKeyed)
    (shown : ∀ alarm : String, ((change (draft.opened situation)).alarms[alarm]?).isSome →
      draft.homeOf? ledger alarm = some situation.id) :
    (draft.revise situation change).Coherent ledger := by
  obtain ⟨openedId, openedKeyed⟩ := coherent.opened grounded known
  exact coherent.store live ((named _).trans openedId) (keyed _ openedKeyed) shown

theorem put (grounded : ledger.Orderly) {situation : Situation}
    (known : ledger.situations[situation.id]? = some situation) {alarm : Alarm}
    (home : draft.homeOf? ledger alarm.id = some situation.id) :
    (draft.revise situation fun under => under.put alarm).Coherent ledger := by
  have live := coherent.live_of_homeOf? grounded home
  refine coherent.revise grounded known live (fun under => under.put alarm) (fun _ => rfl)
    (fun _ keyed => keyed.insert alarm) ?_
  intro other shown
  rw [SituationDraft.getElem?_put] at shown
  split at shown
  · rename_i same
    exact same ▸ home
  · rw [getElem?_opened known live] at shown
    exact coherent.home_of_shown shown

theorem erase (grounded : ledger.Orderly) {situation : Situation}
    (known : ledger.situations[situation.id]? = some situation)
    (live : situation.id ∉ draft.absorbed) (alarm : String) :
    (draft.revise situation fun under => under.erase alarm).Coherent ledger := by
  refine coherent.revise grounded known live (fun under => under.erase alarm) (fun _ => rfl)
    (fun _ keyed => keyed.erase alarm) ?_
  intro other shown
  rw [SituationDraft.getElem?_erase] at shown
  split at shown
  · simp at shown
  · rw [getElem?_opened known live] at shown
    exact coherent.home_of_shown shown

theorem reopen (grounded : ledger.Orderly) {situation : Situation}
    (known : ledger.situations[situation.id]? = some situation)
    (live : situation.id ∉ draft.absorbed) :
    (draft.revise situation fun under => under).Coherent ledger := by
  refine coherent.revise grounded known live (fun under => under) (fun _ => rfl)
    (fun _ keyed => keyed) ?_
  intro other shown
  rw [getElem?_opened known live] at shown
  exact coherent.home_of_shown shown

/-- An alarm that no other situation shows may come to belong to a situation. -/
theorem associate {alarm home : String} (there : draft.hasSituation ledger home)
    (alone : ∀ id, (draft.copy? ledger id alarm).isSome → id = home) :
    (draft.associate alarm home).Coherent ledger where
  id_eq := coherent.id_eq
  keyed := coherent.keyed
  live := coherent.live
  absorbed_known := coherent.absorbed_known
  home_known := by
    intro other found present
    have lookup : (draft.associate alarm home).homes[other]? =
        if alarm = other then some (some home) else draft.homes[other]? := by
      simp [Draft.associate, ExtTreeMap.getElem?_insert]
    rw [lookup] at present
    split at present
    · exact ⟨home, (Option.some.inj present).symm, there⟩
    · exact coherent.home_known present
  home_of_shown := by
    intro id other shown
    have shown : (draft.copy? ledger id other).isSome := shown
    rw [homeOf?_associate]
    split
    · rename_i same
      rw [alone id (same ▸ shown), resolve_of_not_mem (hasSituation_iff.mp there).1]
    · exact coherent.home_of_shown shown

omit coherent in
/-- What is there before an absorption is there after it, under its own id or the survivor's. -/
theorem hasSituation_absorb {other survivor : Situation}
    (survives : ledger.situations[survivor.id]? = some survivor)
    (target : survivor.id ∉ draft.absorbed) (distinct : other.id ≠ survivor.id) {id : String}
    (there : draft.hasSituation ledger id) : (draft.absorb other survivor).hasSituation ledger
      (if id = other.id then survivor.id else id) := by
  have remains {id : String} (different : id ≠ other.id) (there : draft.hasSituation ledger id) :
      (draft.absorb other survivor).hasSituation ledger id := by
    rw [hasSituation_iff] at there ⊢
    rw [mem_absorbed_absorb target distinct, mem_situations_absorb target distinct]
    exact ⟨fun absorbed => absorbed.elim different.symm there.1,
      there.2.imp_left fun member => .inr ⟨different.symm, member⟩⟩
  split
  · apply remains distinct.symm
    exact hasSituation_iff.mpr ⟨target, .inr (Collections.mem_of_getElem? survives)⟩
  · rename_i different
    exact remains different there

/-- A copy shown after an absorption was shown before, by the situation itself or by one that has
gone there. -/
theorem exists_copy_of_absorb (grounded : ledger.Orderly) {other survivor : Situation}
    (known : ledger.situations[other.id]? = some other)
    (survives : ledger.situations[survivor.id]? = some survivor)
    (live : other.id ∉ draft.absorbed) (target : survivor.id ∉ draft.absorbed)
    (distinct : other.id ≠ survivor.id) {id alarm : String} {copy : Alarm}
    (found : (draft.absorb other survivor).copy? ledger id alarm = some copy) :
    ∃ previous, draft.copy? ledger previous alarm = some copy ∧
      (if previous = other.id then survivor.id else previous) = id := by
  rw [copy?_absorb known survives live target distinct (coherent.shown grounded known)] at found
  split at found
  · contradiction
  rename_i remains
  split at found
  · rename_i same
    rcases Option.or_eq_some_iff.mp found with moved | ⟨_, stayed⟩
    · exact ⟨other.id, moved, by simp [same]⟩
    · exact ⟨survivor.id, stayed, by simp [same]⟩
  · exact ⟨id, found, if_neg (Ne.symm remains)⟩

theorem shown_absorb_iff (grounded : ledger.Orderly) {other survivor : Situation}
    (known : ledger.situations[other.id]? = some other)
    (survives : ledger.situations[survivor.id]? = some survivor)
    (live : other.id ∉ draft.absorbed) (target : survivor.id ∉ draft.absorbed)
    (distinct : other.id ≠ survivor.id) (id alarm : String) :
    ((draft.absorb other survivor).copy? ledger id alarm).isSome ↔
      ∃ previous, (draft.copy? ledger previous alarm).isSome ∧
        (if previous = other.id then survivor.id else previous) = id := by
  constructor
  · intro shown
    obtain ⟨copy, found⟩ := Option.isSome_iff_exists.mp shown
    obtain ⟨previous, before, moved⟩ :=
      coherent.exists_copy_of_absorb grounded known survives live target distinct found
    exact ⟨previous, Option.isSome_of_mem before, moved⟩
  · rintro ⟨previous, shown, rfl⟩
    rw [copy?_absorb known survives live target distinct (coherent.shown grounded known)]
    by_cases gone : previous = other.id
    · subst gone
      simp [distinct, shown]
    · rw [if_neg gone, if_neg (Ne.symm gone)]
      split
      · rename_i same
        rw [same, Option.isSome_or, shown, Bool.or_true]
      · exact shown

theorem home_of_shown_absorb (grounded : ledger.Orderly) {other survivor : Situation}
    (known : ledger.situations[other.id]? = some other)
    (survives : ledger.situations[survivor.id]? = some survivor)
    (live : other.id ∉ draft.absorbed) (target : survivor.id ∉ draft.absorbed)
    (distinct : other.id ≠ survivor.id) {id alarm : String}
    (shown : ((draft.absorb other survivor).copy? ledger id alarm).isSome) :
    (draft.absorb other survivor).homeOf? ledger alarm = some id := by
  obtain ⟨previous, before, moved⟩ :=
    (coherent.shown_absorb_iff grounded known survives live target distinct id alarm).mp shown
  rw [homeOf?_absorb live target distinct coherent.flat, coherent.home_of_shown before,
    Option.map_some, moved]

theorem absorb (grounded : ledger.Orderly) {other survivor : Situation}
    (known : ledger.situations[other.id]? = some other)
    (survives : ledger.situations[survivor.id]? = some survivor)
    (live : other.id ∉ draft.absorbed) (target : survivor.id ∉ draft.absorbed)
    (distinct : other.id ≠ survivor.id) : (draft.absorb other survivor).Coherent ledger where
  id_eq found := IsNamed.absorb (fun _ _ => coherent.id_eq) other survivor _ _ found
  keyed {id drafted} found := by
    rw [getElem?_situations_absorb target distinct] at found
    split at found
    · rw [← Option.some.inj found]
      exact SituationDraft.putAll_keyed (coherent.opened grounded survives).2 _
    · split at found
      · contradiction
      · exact coherent.keyed found
  live {id} member := by
    rw [mem_situations_absorb target distinct] at member
    rw [mem_absorbed_absorb target distinct]
    rcases member with same | ⟨different, member⟩
    · subst same
      exact fun absorbed => absorbed.elim distinct target
    · exact fun absorbed => absorbed.elim different (coherent.live member)
  absorbed_known {id home} found := by
    rw [getElem?_absorbed_absorb target distinct] at found
    split at found
    · rename_i same
      have arrives := hasSituation_absorb survives target distinct
        (hasSituation_iff.mpr ⟨live, .inr (Collections.mem_of_getElem? known)⟩)
      rw [if_pos rfl] at arrives
      exact ⟨same ▸ Collections.mem_of_getElem? known, Option.some.inj found ▸ arrives⟩
    · obtain ⟨previous, present, rfl⟩ := Option.map_eq_some_iff.mp found
      exact (coherent.absorbed_known present).imp_right
        (hasSituation_absorb survives target distinct)
  home_known {alarm home} found := by
    rw [getElem?_homes_absorb target distinct] at found
    obtain ⟨previous, present, rfl⟩ := Option.map_eq_some_iff.mp found
    obtain ⟨id, rfl, there⟩ := coherent.home_known present
    refine ⟨if id = other.id then survivor.id else id, ?_,
      hasSituation_absorb survives target distinct there⟩
    simp only [Option.some.injEq]
    split <;> rfl
  home_of_shown shown :=
    coherent.home_of_shown_absorb grounded known survives live target distinct shown

end Coherent
end FaultCorrelation.Draft
