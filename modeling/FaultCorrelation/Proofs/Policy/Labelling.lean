import FaultCorrelation.Proofs.Policy.Completion

/-! # Which drafts are new

A draft of a situation says whether the situation is started in this tick. What it says is right:
the situations that are started are those that the ledger does not have. Rules that resettle alarms
keep this so, since they take a situation of the ledger up as it is there. The rule that starts
situations keeps it so where it draws no id of the ledger; an id may be drawn twice.
-/

namespace FaultCorrelation

open Std

namespace Draft

variable {ledger : Ledger} {draft : Draft}

theorem mem_newIds (lodged : draft.Lodged ledger) {id : String} : id ∈ draft.newIds ↔
    ∃ drafted, draft.situations[id]? = some drafted ∧ drafted.isNew := by
  simp only [newIds, List.mem_map, List.mem_filter, Collections.mem_values]
  constructor
  · rintro ⟨drafted, ⟨⟨key, found⟩, new⟩, rfl⟩
    exact ⟨drafted, lodged.id_eq found ▸ found, new⟩
  · rintro ⟨drafted, found, new⟩
    exact ⟨drafted, ⟨⟨id, found⟩, new⟩, lodged.id_eq found⟩

/-- Whether drafts are marked as new where the ledger does not have the situation. -/
def IsLabelled (ledger : Ledger) (draft : Draft) : Prop :=
  ∀ (id : String) (drafted : SituationDraft), draft.situations[id]? = some drafted →
    (drafted.isNew ↔ id ∉ ledger.situations)

/-- All that is drafted before situations are started are situations of the ledger. -/
theorem Resettles.isLabelled {time : Int} (settled : Resettles ledger (.new time) draft) :
    draft.IsLabelled ledger := by
  intro id drafted found
  obtain ⟨known, old⟩ := settled.known_of_new found
  simp [known, old]

namespace IsLabelled

variable (labelled : draft.IsLabelled ledger)
include labelled

/-- Of the situations drafted those are new that the ledger does not have. -/
theorem mem_newIds_iff (lodged : draft.Lodged ledger) {id : String}
    (underway : id ∈ draft.situations) : id ∈ draft.newIds ↔ id ∉ ledger.situations := by
  obtain ⟨drafted, found⟩ := Collections.exists_getElem? underway
  rw [mem_newIds lodged, ← labelled id drafted found]
  constructor
  · rintro ⟨other, again, new⟩
    rwa [Option.some.inj (found.symm.trans again)]
  · exact fun new => ⟨drafted, found, new⟩

theorem store {id : String} {drafted : SituationDraft}
    (right : drafted.isNew ↔ id ∉ ledger.situations) :
    (draft.store id drafted).IsLabelled ledger := by
  intro other present found
  rw [Draft.store, ExtTreeMap.getElem?_insert] at found
  split at found
  · rename_i same
    rw [LawfulEqOrd.compare_eq_iff_eq] at same
    rw [← Option.some.inj found, ← same]
    exact right
  · exact labelled other present found

/-- What is drafted under an id that the ledger does not have is new. -/
theorem openedNew {id : String} (unknown : id ∉ ledger.situations) :
    (draft.openedNew id).isNew := by
  rw [Draft.openedNew, ExtTreeMap.getD_eq_getD_getElem?]
  cases found : draft.situations[id]? with
  | none => rfl
  | some drafted => exact (labelled id drafted found).mpr unknown

/-- Starting a situation, or revising one that was started, under an id that the ledger does not
have. -/
theorem start {id : String} (unknown : id ∉ ledger.situations) (alarms : List Alarm)
    (members : List String) : ((draft.reviseNew id fun under => under.putAll alarms).associateAll
      members id).IsLabelled ledger := by
  have right : ((draft.openedNew id).putAll alarms).isNew ↔ id ∉ ledger.situations := by
    rw [SituationDraft.putAll_isNew]
    exact iff_of_true (labelled.openedNew unknown) unknown
  rw [associateAll_eq]
  exact labelled.store right

end IsLabelled
end Draft

/-- Starting situations under ids that the ledger does not have. -/
theorem Rule.runNewSituation_labelled {facts : Facts} {bench : Workbench}
    (labelled : bench.draft.IsLabelled facts.ledger)
    (fresh : ∀ n, bench.ids.next ≤ n → n < (runNewSituation facts bench).1.ids.next →
      bench.ids.name n ∉ facts.ledger.situations) :
    (runNewSituation facts bench).1.draft.IsLabelled facts.ledger := by
  rw [runNewSituation_eq] at fresh ⊢
  generalize facts.clusters = clusters at fresh ⊢
  induction clusters generalizing bench with
  | nil => exact labelled
  | cons first rest ih =>
    rw [List.foldl_cons] at fresh ⊢
    have next := (foldl_startSituation_ids facts (startSituation facts bench first).1 rest).2
    rcases startSituation_spec facts bench first with ⟨_, same⟩ | ⟨_, started⟩
    · rw [same] at fresh ⊢
      exact ih labelled fresh
    · rw [started] at fresh next ⊢
      have unknown := fresh _ (Nat.le_refl _) (Nat.lt_of_succ_le next)
      exact ih (labelled.start unknown _ _) fun n lower upper =>
        fresh n (Nat.le_of_succ_le lower) upper

/-- In the draft that is committed the situations that are started are those that the ledger does
not have. -/
theorem Policy.finalDraft_labelled {facts : Facts} (housed : facts.ledger.Housed) {now : Int}
    {ids : IdSource} (fresh : DrawsFresh facts now ids) :
    (finalDraft facts now ids).IsLabelled facts.ledger := by
  rw [DrawsFresh, evaluate_eq_runNewSituation housed] at fresh
  rw [finalDraft, evaluate_eq_runNewSituation housed]
  have merged := (correctedDraft_resettles housed now).trans (mergedDraft_resettles housed now)
  exact Rule.runNewSituation_labelled merged.isLabelled fresh

end FaultCorrelation
