import FaultCorrelation.Ledger.Commit
import FaultCorrelation.Proofs.Ledger.DraftCoherence

/-! # What a commit leads to

A commit carries out the parts of a draft one after the other. For a coherent draft the order does
not show: after the commit the ledger holds what the draft answered before it (`Committed`), and is
coherent again. Only the memberships that the draft says are entered; claiming the alarms that are
shown and letting go of alarms that are gone change nothing any more.
-/

namespace FaultCorrelation.Ledger

open Std

/-- The ledger after the commit of a draft. -/
structure Committed (ledger : Ledger) (draft : Draft) (after : Ledger) : Prop where
  drafted {id : String} {drafted : SituationDraft} : draft.situations[id]? = some drafted →
    ∃ text, after.situations[id]? = some { drafted.situation with diagnostic := text }
  kept {id : String} : id ∉ draft.situations →
    after.situations[id]? = if id ∈ draft.absorbed then none else ledger.situations[id]?
  home_eq (alarm : String) : after.homes[alarm]? = draft.homeOf? ledger alarm
  mem_exclusions (id alarm : String) : ⟨id, alarm⟩ ∈ after.exclusions ↔
    id ∈ after.situations ∧ ⟨id, alarm⟩ ∉ draft.inclusions ∧
      (⟨id, alarm⟩ ∈ draft.exclusions ∨
        ∃ source, ⟨source, alarm⟩ ∈ ledger.exclusions ∧ draft.resolve source = id)

variable {ledger : Ledger} {draft : Draft}

/-- Follow redirections in the order in which they are carried out. -/
private def renamed (pairs : List (String × String)) (id : String) : String :=
  pairs.foldl (fun id pair => if id = pair.1 then pair.2 else id) id

private theorem renamed_of_not_key {pairs : List (String × String)} {id : String}
    (fresh : ∀ pair ∈ pairs, pair.1 ≠ id) : renamed pairs id = id := by
  induction pairs with
  | nil => rfl
  | cons first rest ih =>
    rw [renamed, List.foldl_cons, if_neg (Ne.symm (fresh first (List.mem_cons_self ..)))]
    exact ih fun pair member => fresh pair (List.mem_cons_of_mem _ member)

private theorem renamed_of_mem {pairs : List (String × String)} {id target : String}
    (distinct : (pairs.map Prod.fst).Nodup) (member : (id, target) ∈ pairs)
    (final : ∀ pair ∈ pairs, pair.1 ≠ target) : renamed pairs id = target := by
  induction pairs with
  | nil => contradiction
  | cons first rest ih =>
    obtain ⟨fresh, distinct⟩ := List.nodup_cons.mp distinct
    have later := fun pair member => final pair (List.mem_cons_of_mem first member)
    rw [renamed, List.foldl_cons]
    rcases List.mem_cons.mp member with rfl | member
    · rw [if_pos rfl]
      exact renamed_of_not_key later
    · rw [if_neg]
      · exact ih distinct member later
      · intro same
        exact fresh (same ▸ List.mem_map_of_mem member)

/-- Carried out in order, flat redirections lead where they lead in the draft. -/
private theorem renamed_eq_resolve (flat : draft.IsFlat) (id : String) :
    renamed draft.absorbed.toList id = draft.resolve id := by
  have mem_keys (pair : String × String) (member : pair ∈ draft.absorbed.toList) :
      pair.1 ∈ draft.absorbed :=
    Collections.mem_of_getElem? (ExtTreeMap.mem_toList_iff_getElem?_eq_some.mp member)
  rw [Draft.resolve_eq flat]
  cases found : draft.absorbed[id]? with
  | none =>
    apply renamed_of_not_key
    rintro pair member rfl
    exact absurd (mem_keys pair member) (by simpa using found)
  | some target =>
    apply renamed_of_mem _ (ExtTreeMap.mem_toList_iff_getElem?_eq_some.mpr found)
    · rintro pair member rfl
      exact flat id _ found (mem_keys pair member)
    · rw [ExtTreeMap.map_fst_toList_eq_keys]
      exact ExtTreeMap.nodup_keys

theorem getElem?_situations_applyAbsorptions (id : String) :
    (ledger.applyAbsorptions draft).situations[id]? =
      if id ∈ draft.absorbed then none else ledger.situations[id]? := by
  have fold := Collections.seen_foldl absorb (fun ledger id => ledger.situations[id]?)
    (fun _ _ _ => none)
    (fun ledger absorbed survivor other => by
      simp [absorb, ExtTreeMap.getElem?_erase]) draft.absorbed ledger id
  rw [applyAbsorptions]
  refine fold.trans ?_
  cases found : draft.absorbed[id]? with
  | none => rw [if_neg (by simpa using found), Option.elim_none]
  | some target => rw [if_pos (Collections.mem_of_getElem? found), Option.elim_some]

theorem getElem?_homes_applyAbsorptions (flat : draft.IsFlat) (alarm : String) :
    (ledger.applyAbsorptions draft).homes[alarm]? = ledger.homes[alarm]?.map draft.resolve := by
  have inOrder (pairs : List (String × String)) (ledger : Ledger) :
      (pairs.foldl (fun ledger pair => ledger.absorb pair.1 pair.2) ledger).homes[alarm]? =
        ledger.homes[alarm]?.map (renamed pairs) := by
    induction pairs generalizing ledger with
    | nil => exact Option.map_id'.symm
    | cons first rest ih =>
      rw [List.foldl_cons, ih, absorb, ExtTreeMap.getElem?_map, Option.map_map]
      rfl
  rw [applyAbsorptions, ExtTreeMap.foldl_eq_foldl_toList, inOrder]
  exact congrArg (Option.map · _) (funext (renamed_eq_resolve flat))

theorem mem_exclusions_applyAbsorptions (flat : draft.IsFlat) {id alarm : String} :
    ⟨id, alarm⟩ ∈ (ledger.applyAbsorptions draft).exclusions ↔
      ∃ source, ⟨source, alarm⟩ ∈ ledger.exclusions ∧ draft.resolve source = id := by
  have inOrder (pairs : List (String × String)) (ledger : Ledger) :
      ⟨id, alarm⟩ ∈
          (pairs.foldl (fun ledger pair => ledger.absorb pair.1 pair.2) ledger).exclusions ↔
        ∃ source, ⟨source, alarm⟩ ∈ ledger.exclusions ∧ renamed pairs source = id := by
    induction pairs generalizing ledger with
    | nil => simp [renamed]
    | cons first rest ih =>
      rw [List.foldl_cons, ih]
      simp only [absorb, ExclusionSet.mem_redirect]
      constructor
      · rintro ⟨_, ⟨source, member, rfl⟩, same⟩
        exact ⟨source, member, same⟩
      · rintro ⟨source, member, same⟩
        exact ⟨_, ⟨source, member, rfl⟩, same⟩
  rw [applyAbsorptions, ExtTreeMap.foldl_eq_foldl_toList, inOrder]
  simp only [renamed_eq_resolve flat]

theorem getElem?_applyHomes (alarm : String) : (ledger.applyHomes draft).homes[alarm]? =
    draft.homes[alarm]?.getD ledger.homes[alarm]? := by
  have fold := Collections.seen_foldl applyHome (fun homes alarm => homes[alarm]?)
    (fun _ home _ => home)
    (fun homes alarm home other => by
      cases home <;> simp [applyHome, ExtTreeMap.getElem?_erase, ExtTreeMap.getElem?_insert])
    draft.homes ledger.homes alarm
  rw [applyHomes]
  refine fold.trans ?_
  cases draft.homes[alarm]? <;> rfl

theorem mem_applyExclusions {exclusion : Exclusion} :
    exclusion ∈ (ledger.applyExclusions draft).exclusions ↔ exclusion ∉ draft.inclusions ∧
      (exclusion ∈ draft.exclusions ∨ exclusion ∈ ledger.exclusions) := by
  rw [applyExclusions]
  simp only [Collections.mem_foldl_erase, Collections.mem_foldl_insert]

section Finish

variable {W : Type} [Weight W]

/-- What a list of drafts comes to: their situations, with some diagnostic texts. -/
structure Finished (drafts : List SituationDraft) (situations : List Situation) : Prop where
  map_id : situations.map Situation.id = drafts.map SituationDraft.id
  exists_situation : ∀ drafted ∈ drafts, ∃ text,
    { drafted.situation with diagnostic := text } ∈ situations
  exists_draft : ∀ situation ∈ situations, ∃ drafted ∈ drafts, ∃ text,
    situation = { drafted.situation with diagnostic := text }

/-- Drafts are finished one after the other. -/
theorem finish_cons (graph : Topology W) (first : SituationDraft) (rest : List SituationDraft)
    (cache : DistanceCache W) : (((first :: rest).mapM (finish graph)).run cache).1 =
      (finish graph first cache).1 ::
        ((rest.mapM (finish graph)).run (finish graph first cache).2).1 := by
  rw [List.mapM_cons]
  rfl

theorem finish_all (graph : Topology W) (drafts : List SituationDraft) (cache : DistanceCache W) :
    Finished drafts ((drafts.mapM (finish graph)).run cache).1 := by
  induction drafts generalizing cache with
  | nil => exact ⟨rfl, fun _ member => (nomatch member), fun _ member => (nomatch member)⟩
  | cons first rest ih =>
    obtain ⟨text, finished⟩ : ∃ text,
        (finish graph first cache).1 = { first.situation with diagnostic := text } := ⟨_, rfl⟩
    obtain ⟨ids, present, origin⟩ := ih (finish graph first cache).2
    rw [finish_cons]
    refine ⟨?_, ?_, ?_⟩
    · rw [List.map_cons, List.map_cons, ids, finished]
      rfl
    · intro drafted member
      rcases List.mem_cons.mp member with rfl | member
      · exact ⟨text, finished ▸ List.mem_cons_self ..⟩
      · exact (present drafted member).imp fun _ listed => List.mem_cons_of_mem _ listed
    · intro other member
      rcases List.mem_cons.mp member with rfl | member
      · exact ⟨first, List.mem_cons_self .., text, finished⟩
      · obtain ⟨drafted, listed, same⟩ := origin other member
        exact ⟨drafted, List.mem_cons_of_mem _ listed, same⟩

end Finish

section Storing

variable {situations : List Situation}

theorem getElem?_foldl_store_of_not_mem {id : String}
    (fresh : ∀ situation ∈ situations, situation.id ≠ id) :
    (situations.foldl store ledger).situations[id]? = ledger.situations[id]? := by
  induction situations generalizing ledger with
  | nil => rfl
  | cons first rest ih =>
    rw [List.foldl_cons, ih fun other member => fresh other (List.mem_cons_of_mem _ member)]
    simp [store, ExtTreeMap.getElem?_insert, fresh first (List.mem_cons_self ..)]

theorem getElem?_foldl_store_of_mem (ledger : Ledger) {situation : Situation}
    (distinct : (situations.map Situation.id).Nodup) (member : situation ∈ situations) :
    (situations.foldl store ledger).situations[situation.id]? = some situation := by
  induction situations generalizing ledger with
  | nil => contradiction
  | cons first rest ih =>
    obtain ⟨fresh, distinct⟩ := List.nodup_cons.mp distinct
    rw [List.foldl_cons]
    rcases List.mem_cons.mp member with rfl | member
    · rw [getElem?_foldl_store_of_not_mem]
      · simp [store]
      · exact fun other member same => fresh (same ▸ List.mem_map_of_mem member)
    · exact ih _ distinct member

/-- Claiming alarms that belong to their situations already moves nothing. -/
theorem getElem?_homes_foldl_store
    (belong : ∀ situation ∈ situations, ∀ alarm : String, alarm ∈ situation.alarms →
      ledger.homes[alarm]? = some situation.id) (alarm : String) :
    (situations.foldl store ledger).homes[alarm]? = ledger.homes[alarm]? := by
  induction situations generalizing ledger with
  | nil => rfl
  | cons first rest ih =>
    have claimed (other : String) : (ledger.store first).homes[other]? = ledger.homes[other]? := by
      rw [store, getElem?_claim]
      split
      · rename_i shown
        exact (belong first (List.mem_cons_self ..) other (ExtTreeMap.mem_keys.mp shown)).symm
      · rfl
    rw [List.foldl_cons, ih, claimed]
    intro situation member other shown
    rw [claimed]
    exact belong situation (List.mem_cons_of_mem _ member) other shown

theorem exclusions_foldl_store :
    (situations.foldl store ledger).exclusions = ledger.exclusions := by
  induction situations generalizing ledger with
  | nil => rfl
  | cons first rest ih => exact ih

end Storing

/-- Where every alarm belongs to a situation that is there, releases change nothing. -/
theorem applyReleases_of_known
    (known : ∀ alarm home : String, ledger.homes[alarm]? = some home → home ∈ ledger.situations) :
    ledger.applyReleases draft = ledger := by
  have stays (alarm : String) : ledger.applyRelease alarm = ledger := by
    rw [applyRelease, if_neg]
    simp only [Option.any_eq_true, decide_eq_true_eq, not_exists, not_and, not_not]
    exact fun home belongs => known alarm home belongs
  rw [applyReleases, ExtTreeSet.foldl_eq_foldl_toList]
  induction draft.releases.toList with
  | nil => rfl
  | cons first rest ih => rw [List.foldl_cons, stays, ih]

/-- The ledger before the drafted situations are entered. -/
def prepared (ledger : Ledger) (draft : Draft) : Ledger :=
  ((ledger.applyAbsorptions draft).applyHomes draft).applyExclusions draft

section Named

variable {situations : List Situation} (finished : Finished draft.situations.values situations)
  (named : ∀ (id : String) (drafted : SituationDraft), draft.situations[id]? = some drafted →
    drafted.id = id)
include finished named

/-- The situations that are entered stand under the ids of their drafts. -/
theorem Finished.map_id_eq_keys : situations.map Situation.id = draft.situations.keys := by
  rw [finished.map_id, Collections.map_values_eq_keys named]

theorem getElem?_stored {id : String} {drafted : SituationDraft}
    (found : draft.situations[id]? = some drafted) :
    ∃ text, (situations.foldl store (ledger.prepared draft)).situations[id]? =
      some { drafted.situation with diagnostic := text } := by
  have distinct : (situations.map Situation.id).Nodup := by
    rw [finished.map_id_eq_keys named]
    exact ExtTreeMap.nodup_keys
  obtain ⟨text, listed⟩ :=
    finished.exists_situation drafted (Collections.mem_values.mpr ⟨id, found⟩)
  have looked := getElem?_foldl_store_of_mem (ledger.prepared draft) distinct listed
  exact ⟨text, named id drafted found ▸ looked⟩

theorem getElem?_stored_of_not_mem {id : String} (untouched : id ∉ draft.situations) :
    (situations.foldl store (ledger.prepared draft)).situations[id]? =
      if id ∈ draft.absorbed then none else ledger.situations[id]? := by
  rw [getElem?_foldl_store_of_not_mem]
  · exact getElem?_situations_applyAbsorptions id
  · rintro situation member rfl
    have listed := List.mem_map_of_mem (f := Situation.id) member
    rw [finished.map_id_eq_keys named, ExtTreeMap.mem_keys] at listed
    exact untouched listed

end Named

section Commit

variable (coherent : draft.Coherent ledger) {situations : List Situation}
  (finished : Finished draft.situations.values situations)
include coherent

theorem getElem?_homes_prepared (alarm : String) :
    (ledger.prepared draft).homes[alarm]? = draft.homeOf? ledger alarm := by
  change ((ledger.applyAbsorptions draft).applyHomes draft).homes[alarm]? = _
  rw [getElem?_applyHomes, getElem?_homes_applyAbsorptions coherent.flat]
  cases found : draft.homes[alarm]? with
  | none => rw [Option.getD_none, Draft.homeOf?_of_ledger found]
  | some home =>
    obtain ⟨id, rfl, there⟩ := coherent.home_known found
    rw [Option.getD_some, Draft.homeOf?_of_drafted found, Option.map_some,
      Draft.resolve_of_not_mem (Draft.hasSituation_iff.mp there).1]

include finished

theorem getElem?_homes_stored (alarm : String) :
    (situations.foldl store (ledger.prepared draft)).homes[alarm]? =
      draft.homeOf? ledger alarm := by
  rw [getElem?_homes_foldl_store, getElem?_homes_prepared coherent]
  intro situation member other shown
  obtain ⟨drafted, listed, text, rfl⟩ := finished.exists_draft situation member
  obtain ⟨id, found⟩ := Collections.mem_values.mp listed
  have named : drafted.id = id := coherent.id_eq found
  rw [getElem?_homes_prepared coherent]
  apply coherent.home_of_shown
  change (draft.copy? ledger drafted.id other).isSome
  rw [named, Draft.copy?_of_underway coherent found]
  exact ExtTreeMap.mem_iff_isSome_getElem?.mp shown

/-- Every alarm belongs to a situation that is there, so that nothing is left to release. -/
theorem applyReleases_stored (grounded : ledger.Coherent) :
    (situations.foldl store (ledger.prepared draft)).applyReleases draft =
      situations.foldl store (ledger.prepared draft) := by
  apply applyReleases_of_known
  intro alarm home belongs
  rw [getElem?_homes_stored coherent finished] at belongs
  obtain ⟨live, there⟩ :=
    Draft.hasSituation_iff.mp (coherent.hasSituation_of_homeOf? grounded.orderly belongs)
  by_cases underway : home ∈ draft.situations
  · obtain ⟨_, found⟩ := Collections.exists_getElem? underway
    obtain ⟨_, looked⟩ := getElem?_stored finished (fun _ _ => coherent.id_eq) found
    exact Collections.mem_of_getElem? looked
  · rw [ExtTreeMap.mem_iff_isSome_getElem?,
      getElem?_stored_of_not_mem finished (fun _ _ => coherent.id_eq) underway, if_neg live,
      ← ExtTreeMap.mem_iff_isSome_getElem?]
    exact there.resolve_left underway

end Commit

/-- A commit enters what the draft answers. -/
theorem commit_committed {W : Type} [Weight W] (grounded : ledger.Coherent)
    (coherent : draft.Coherent ledger) (graph : Topology W) (cache : DistanceCache W) :
    Committed ledger draft ((ledger.commit draft graph).run cache).1.1 := by
  let situations := ((draft.situations.values.mapM (finish graph)).run cache).1
  have finished : Finished draft.situations.values situations :=
    finish_all graph draft.situations.values cache
  have result : ((ledger.commit draft graph).run cache).1.1 =
      (situations.foldl store (ledger.prepared draft)).dropVoidExclusions := by
    rw [← applyReleases_stored coherent finished grounded]
    rfl
  rw [result]
  refine ⟨getElem?_stored finished fun _ _ => coherent.id_eq,
    getElem?_stored_of_not_mem finished fun _ _ => coherent.id_eq,
    getElem?_homes_stored coherent finished, fun id alarm => ?_⟩
  change _ ∈ ExtTreeSet.filter _ _ ↔ _
  rw [Collections.mem_filter, exclusions_foldl_store, prepared, mem_applyExclusions]
  change (_ ∧ (_ ∨ _ ∈ (ledger.applyAbsorptions draft).exclusions)) ∧ _ ↔ _
  rw [mem_exclusions_applyAbsorptions coherent.flat, and_comm]
  simp only [dropVoidExclusions, ExtTreeMap.mem_iff_contains]

/-- An empty draft leaves the ledger as it is. -/
theorem committed_new (grounded : ledger.Coherent) (time : Int) :
    Committed ledger (.new time) ledger where
  drafted found := by simp [Draft.new] at found
  kept _ := by simp [Draft.new]
  home_eq alarm := (Draft.homeOf?_new time alarm).symm
  mem_exclusions id alarm := by
    simp only [Draft.resolve_new, exists_eq_right]
    simp only [Draft.new, ExtTreeSet.not_mem_empty, not_false_eq_true, true_and, false_or]
    exact ⟨fun member => ⟨grounded.exclusion_known member, member⟩, fun both => both.2⟩

namespace Committed

variable {after : Ledger} (committed : Committed ledger draft after)
  (coherent : draft.Coherent ledger)
include committed coherent

/-- After a commit the ledger shows what the draft showed. -/
theorem copy?_eq (id alarm : String) : after.copy? id alarm = draft.copy? ledger id alarm := by
  cases found : draft.situations[id]? with
  | some drafted =>
    obtain ⟨text, looked⟩ := committed.drafted found
    rw [Ledger.copy?, looked, Draft.copy?_of_underway coherent found]
    rfl
  | none =>
    have untouched : id ∉ draft.situations := by simpa using found
    rw [Ledger.copy?, committed.kept untouched, Draft.copy?, found]
    split <;> rfl

theorem shows_iff {id alarm : String} :
    after.Shows id alarm ↔ (draft.copy? ledger id alarm).isSome := by
  rw [Ledger.shows_iff, committed.copy?_eq coherent]

theorem mem_situations_iff {id : String} :
    id ∈ after.situations ↔ draft.hasSituation ledger id := by
  rw [Draft.hasSituation_iff]
  by_cases underway : id ∈ draft.situations
  · obtain ⟨drafted, found⟩ := Collections.exists_getElem? underway
    obtain ⟨text, looked⟩ := committed.drafted found
    simp only [Collections.mem_of_getElem? looked, coherent.live underway, underway,
      not_false_eq_true, true_or, and_self]
  · rw [ExtTreeMap.mem_iff_isSome_getElem?, committed.kept underway]
    by_cases absorbed : id ∈ draft.absorbed <;> simp [absorbed, underway]

/-- The ledger after the commit of a coherent draft is coherent. -/
theorem coherent_after (grounded : ledger.Coherent) : after.Coherent := by
  have situation {id : String} {situation : Situation}
      (found : after.situations[id]? = some situation) :
      (∃ drafted text, draft.situations[id]? = some drafted ∧
        situation = { drafted.situation with diagnostic := text }) ∨
      ledger.situations[id]? = some situation := by
    by_cases underway : id ∈ draft.situations
    · obtain ⟨drafted, present⟩ := Collections.exists_getElem? underway
      obtain ⟨text, looked⟩ := committed.drafted present
      exact .inl ⟨drafted, text, present, Option.some.inj (found.symm.trans looked)⟩
    · rw [committed.kept underway] at found
      split at found
      · contradiction
      · exact .inr found
  refine ⟨?_, ?_, ?_, ?_, ?_, ?_⟩
  · intro id _ found
    rcases situation found with ⟨drafted, text, present, rfl⟩ | known
    · exact coherent.id_eq present
    · exact grounded.id_eq known
  · intro id _ found
    rcases situation found with ⟨drafted, text, present, rfl⟩ | known
    · exact coherent.keyed present
    · exact grounded.keyed known
  · intro id _ found
    rcases situation found with ⟨drafted, text, present, rfl⟩ | known
    · rfl
    · exact grounded.severity_eq known
  · intro id alarm shown
    rw [committed.home_eq]
    exact coherent.home_of_shown ((committed.shows_iff coherent).mp shown)
  · intro alarm home belongs
    rw [committed.home_eq] at belongs
    exact (committed.mem_situations_iff coherent).mpr
      (coherent.hasSituation_of_homeOf? grounded.orderly belongs)
  · intro id alarm member
    exact ((committed.mem_exclusions id alarm).mp member).1

end Committed

end FaultCorrelation.Ledger
