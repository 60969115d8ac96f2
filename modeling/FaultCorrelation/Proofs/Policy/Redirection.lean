import FaultCorrelation.Proofs.Ledger.Absorption
import FaultCorrelation.Proofs.Policy.Evaluation

/-! # Following redirections

An absorbed situation is looked for under its survivor, that one under its own survivor, and so on:
a walk through a table that has no bound of its own and would not end in a cycle. `Draft.Walk` is
this walk. Where redirections are flat it ends, after one step at the latest, and it ends where
`Draft.resolve` does.

Rules change a draft by nothing but the operations that it offers (`Draft.Becomes`), and this holds
of what a failing rule leaves behind as well. So no rule and no policy, with a rule rolled back or
not, leads to a draft that operations alone do not lead to, and those keep redirections flat.
-/

namespace FaultCorrelation

namespace Draft

variable {draft next : Draft} {steps : Nat} {id target : String}

/-- Following redirections from an id until there is none: how many, and where that ends. -/
inductive Walk (draft : Draft) : Nat → String → String → Prop where
  | stay {id : String} (live : id ∉ draft.absorbed) : Walk draft 0 id id
  | hop {steps : Nat} {id survivor target : String} (sent : draft.absorbed[id]? = some survivor)
      (onward : Walk draft steps survivor target) : Walk draft (steps + 1) id target

/-- Where redirections are flat there is one walk from each id, of one step if the id was absorbed
and of none if it was not. -/
theorem IsFlat.walk_iff (flat : draft.IsFlat) : draft.Walk steps id target ↔
    steps = (if id ∈ draft.absorbed then 1 else 0) ∧ target = draft.resolve id := by
  constructor
  · intro walk
    cases walk with
    | stay live => exact ⟨(if_neg live).symm, (resolve_of_not_mem live).symm⟩
    | hop sent onward =>
      rw [if_pos (Collections.mem_of_getElem? sent), resolve_of_getElem? flat sent]
      cases onward with
      | stay => exact ⟨rfl, rfl⟩
      | hop again => exact absurd (Collections.mem_of_getElem? again) (flat _ _ sent)
  · rintro ⟨rfl, rfl⟩
    split
    · rename_i absorbed
      obtain ⟨survivor, sent⟩ := Collections.exists_getElem? absorbed
      rw [resolve_of_getElem? flat sent]
      exact .hop sent (.stay (flat _ _ sent))
    · rename_i live
      rw [resolve_of_not_mem live]
      exact .stay live

/-- Any number of changes asked of a draft. -/
abbrev Becomes : Draft → Draft → Prop :=
  Relation.ReflTransGen fun draft next => ∃ operation, draft.operate operation = next

theorem Becomes.isFlat (becomes : draft.Becomes next) (flat : draft.IsFlat) : next.IsFlat := by
  induction becomes with
  | refl => exact flat
  | tail _ asked ih =>
    obtain ⟨operation, rfl⟩ := asked
    exact ih.operate operation

theorem becomes_operate (draft : Draft) (operation : Operation) :
    draft.Becomes (draft.operate operation) :=
  .single ⟨operation, rfl⟩

theorem becomes_foldl {α : Type} {change : Draft → α → Draft}
    (each : ∀ (draft : Draft) (item : α), draft.Becomes (change draft item)) (items : List α)
    (draft : Draft) :
    draft.Becomes (items.foldl change draft) :=
  List.foldlRecOn items change .refl fun next reached item _ => reached.trans (each next item)

theorem becomes_associateAll (draft : Draft) (alarms : List String) (home : String) :
    draft.Becomes (draft.associateAll alarms home) :=
  becomes_foldl (fun draft alarm => becomes_operate draft (.associate alarm home)) alarms draft

/-- A change of a drafted situation that edits make of its alarms. -/
theorem becomes_revise {situation : Situation} {change : SituationDraft → SituationDraft}
    (edited : ∃ edits, (draft.opened situation).editAll edits = change (draft.opened situation)) :
    draft.Becomes (draft.revise situation change) := by
  obtain ⟨edits, same⟩ := edited
  exact .single ⟨.revise situation edits, congrArg (draft.store situation.id) same⟩

end Draft

namespace SituationDraft

theorem editAll_put (drafted : SituationDraft) (alarms : List Alarm) :
    drafted.editAll (alarms.map .put) = drafted.putAll alarms :=
  List.foldl_map

theorem exists_editAll_putShown (drafted : SituationDraft) (alarms : List Alarm) :
    ∃ edits, drafted.editAll edits = alarms.foldl (fun under alarm =>
      if alarm.id ∈ under.alarms then under.put alarm else under) drafted := by
  induction alarms generalizing drafted with
  | nil => exact ⟨[], rfl⟩
  | cons first rest ih =>
    rw [List.foldl_cons]
    split
    · obtain ⟨edits, later⟩ := ih (drafted.put first)
      exact ⟨.put first :: edits, later⟩
    · exact ih drafted

end SituationDraft

namespace Rule

open Draft (Becomes becomes_operate becomes_foldl becomes_revise becomes_associateAll)

variable {facts : Facts} {draft : Draft}

theorem runCollection_becomes : draft.Becomes (runCollection facts draft).1 :=
  becomes_foldl (fun draft (alarm : Alarm) => becomes_operate draft (.release alarm.id))
    facts.collected draft

theorem applyFalsePositive_becomes (situation : Situation) (id alarm : String) :
    draft.Becomes (applyFalsePositive facts draft situation id alarm) := by
  have hidden : draft.Becomes (draft.revise situation fun under => under.erase alarm) :=
    becomes_revise ⟨[.erase alarm], rfl⟩
  have excluded := hidden.trans (becomes_operate _ (.exclude id alarm))
  rw [applyFalsePositive]
  split
  · exact excluded.trans (becomes_operate _ (.associate alarm id))
  · exact excluded

theorem applyFalseNegative_becomes (situation : Situation) (id : String) (alarm : Alarm) :
    draft.Becomes (applyFalseNegative facts draft situation id alarm) := by
  -- From the draft in which the alarm has left the situation it was in, if there is one.
  have shows (left : Draft) : left.Becomes
      (((left.readmit id alarm.id).associate alarm.id id).revise situation fun under =>
        under.put alarm) :=
    ((becomes_operate left (.allow id alarm.id)).trans
      (becomes_operate _ (.associate alarm.id id))).trans (becomes_revise ⟨[.put alarm], rfl⟩)
  rw [applyFalseNegative]
  split
  · exact (becomes_revise ⟨[.erase alarm.id], rfl⟩).trans (shows _)
  · exact shows draft

theorem applyFeedback_becomes (draft : Draft) (feedback : Feedback) :
    draft.Becomes (applyFeedback facts draft feedback).1 := by
  rw [applyFeedback]
  split
  · exact .refl
  · split
    · exact applyFalsePositive_becomes _ _ _
    · split
      · exact applyFalseNegative_becomes _ _ _
      · exact .refl
    · exact .refl

theorem runFeedback_becomes : draft.Becomes (runFeedback facts draft).1 := by
  rw [runFeedback_eq]
  exact becomes_foldl applyFeedback_becomes facts.feedback draft

theorem refreshSituation_becomes (home : String) (alarms : List Alarm) :
    draft.Becomes (refreshSituation facts draft home alarms).1 := by
  rw [refreshSituation]
  split
  · exact .refl
  · rename_i situation _
    have renewed : draft.Becomes (draft.revise situation fun under => under.putAll alarms) :=
      becomes_revise ⟨alarms.map .put, SituationDraft.editAll_put _ alarms⟩
    dsimp only
    split
    · exact .refl
    · exact renewed

theorem refreshCopies_becomes (mapped : List (Alarm × String)) :
    draft.Becomes (refreshCopies facts draft mapped).1 := by
  rw [refreshCopies_eq]
  exact becomes_foldl (fun _ (entry : String × List Alarm) =>
    refreshSituation_becomes entry.1 entry.2) _ draft

theorem foldInto_becomes (survivor : Situation) (others : List Situation)
    (mapped unmapped : List Alarm) :
    draft.Becomes (foldInto draft survivor others mapped unmapped) := by
  have absorbed : draft.Becomes (others.foldl (fun draft other => draft.absorb other survivor)
      draft) :=
    becomes_foldl (fun draft other => becomes_operate draft (.absorb other survivor)) others draft
  refine (absorbed.trans (becomes_revise ?_)).trans (becomes_associateAll _ _ _)
  obtain ⟨edits, renewed⟩ := SituationDraft.exists_editAll_putShown
    (Draft.opened (others.foldl (fun draft other => draft.absorb other survivor) draft) survivor)
    mapped
  refine ⟨edits ++ unmapped.map .put, ?_⟩
  rw [← renewed, ← SituationDraft.editAll_put]
  exact List.foldl_append

theorem mergeCluster_becomes {next : Draft} {cluster : Cluster} {changes : Nat}
    (merged : mergeCluster facts draft cluster = .ok (next, changes)) : draft.Becomes next := by
  rw [mergeCluster] at merged
  dsimp only at merged
  split at merged
  · cases merged
    exact .refl
  split at merged
  · have refreshed : (refreshCopies facts draft (mappedOf facts draft cluster)).1 = next :=
      congrArg Prod.fst (Except.ok.inj merged)
    exact refreshed ▸ refreshCopies_becomes _
  split at merged
  · contradiction
  split at merged
  · cases merged
    exact .refl
  · cases merged
    exact foldInto_becomes _ _ _ _

/-- Merging clusters up to one that cannot be merged leaves the others merged. -/
theorem runMerge_becomes (count : Nat) (clusters : List Cluster) :
    draft.Becomes (runMerge facts draft count clusters).2 := by
  induction clusters generalizing draft count with
  | nil => exact .refl
  | cons first rest ih =>
    rw [runMerge]
    split
    · exact .refl
    · rename_i next changes merged
      exact (mergeCluster_becomes merged).trans (ih _)

theorem startSituation_becomes (bench : Workbench) (cluster : Cluster) :
    bench.draft.Becomes (startSituation facts bench cluster).1.draft := by
  rcases startSituation_spec facts bench cluster with ⟨_, same⟩ | ⟨_, started⟩
  · rw [same]
  · rw [started]
    have begun := becomes_operate bench.draft (.reviseNew (bench.ids.name bench.ids.next)
      ((cluster.map LocatedAlarm.alarm).map .put))
    simp only [Draft.operate, SituationDraft.editAll_put] at begun
    exact begun.trans (becomes_associateAll _ _ _)

theorem runNewSituation_becomes (bench : Workbench) :
    bench.draft.Becomes (runNewSituation facts bench).1.draft := by
  rw [runNewSituation_eq]
  exact List.foldlRecOn facts.clusters _
    (motive := fun (next : Workbench) => bench.draft.Becomes next.draft) .refl
    fun next reached cluster _ => reached.trans (startSituation_becomes next cluster)

/-- A rule asks for operations and does nothing else, also where it fails. -/
theorem run_becomes (facts : Facts) (bench : Workbench) (rule : Rule) :
    bench.draft.Becomes (rule.run facts bench).2.draft := by
  cases rule with
  | collection => exact runCollection_becomes
  | feedback => exact runFeedback_becomes
  | merge => exact runMerge_becomes 0 facts.clusters
  | newSituation => exact runNewSituation_becomes bench

end Rule

namespace Policy

theorem applyRule_becomes (facts : Facts) (bench : Workbench) (report : EvaluationReport)
    (rule : Rule) : bench.draft.Becomes (applyRule facts bench report rule).1.draft := by
  have ran := Rule.run_becomes facts bench rule
  rw [applyRule]
  split
  · rename_i outcome
    rwa [outcome] at ran
  · exact .refl

theorem evaluate_becomes (rules : List Rule) (facts : Facts) (bench : Workbench) :
    bench.draft.Becomes (evaluate rules facts bench).1.draft := by
  induction rules using List.reverseRecOn with
  | nil => exact .refl
  | append_singleton rules rule ih =>
    rw [evaluate_concat]
    exact ih.trans (applyRule_becomes facts _ _ rule)

end Policy

namespace Draft

/-- What may be done with a draft. -/
inductive Move where
  | ask (operation : Operation)
  /-- Run a rule and keep what it leaves behind, also where it fails. -/
  | run (rule : Rule) (facts : Facts) (ids : IdSource)
  /-- Run rules, each of them rolled back where it fails. -/
  | evaluate (rules : List Rule) (facts : Facts) (ids : IdSource)

/-- The draft after a move. -/
def move (draft : Draft) : Move → Draft
  | .ask operation => draft.operate operation
  | .run rule facts ids => (rule.run facts { draft, ids }).2.draft
  | .evaluate rules facts ids => (Policy.evaluate rules facts { draft, ids }).1.draft

/-- The draft after moves made in order. -/
def moveAll (draft : Draft) (moves : List Move) : Draft := moves.foldl move draft

theorem becomes_move (draft : Draft) (step : Move) : draft.Becomes (draft.move step) := by
  cases step with
  | ask operation => exact becomes_operate draft operation
  | run rule facts ids => exact Rule.run_becomes facts { draft, ids } rule
  | evaluate rules facts ids => exact Policy.evaluate_becomes rules facts { draft, ids }

theorem isFlat_moveAll (time : Int) (moves : List Move) : ((new time).moveAll moves).IsFlat :=
  (becomes_foldl becomes_move moves (new time)).isFlat (isFlat_operateAll time [])

/-- Whatever has been done with a draft, no redirection leads to an absorbed situation. From every
id, redirections are followed in exactly one way, in one step at most; what that leads to was not
absorbed and stands for itself. -/
theorem redirections_flat (time : Int) (moves : List Move) :
    let draft := (new time).moveAll moves
    (∀ id target : String, draft.absorbed[id]? = some target → target ∉ draft.absorbed) ∧
    ∀ id : String,
      (∃ steps ≤ 1, ∀ taken target,
        draft.Walk taken id target ↔ taken = steps ∧ target = draft.resolve id) ∧
      draft.resolve (draft.resolve id) = draft.resolve id ∧
      draft.resolve id ∉ draft.absorbed := by
  intro draft
  have flat : draft.IsFlat := isFlat_moveAll time moves
  refine ⟨flat, fun id => ⟨⟨_, ?_, fun taken target => flat.walk_iff⟩, resolve_resolve flat id,
    resolve_not_mem flat id⟩⟩
  split <;> decide

/-- Absorbing back and forth: the third absorption is of a situation into one that already stands
for it, and the fourth is of one that was absorbed before. -/
example :
    let situation (id : String) : Situation := .new id 0
    ((new 9).moveAll [.ask (.absorb (situation "a") (situation "b")),
      .ask (.absorb (situation "b") (situation "c")),
      .ask (.absorb (situation "c") (situation "a")),
      .ask (.absorb (situation "a") (situation "d"))]).absorbed.toList =
        [("a", "d"), ("b", "c")] := by
  decide +kernel

/-- The second of two clusters cannot be merged, as an alarm of it is to belong to a situation that
is not in the ledger. What merging the first left behind is rolled back. -/
example :
    let located (id : String) : LocatedAlarm := ⟨1, id, 0, .major, none, none⟩
    let facts : Facts :=
      { active := ∅, clusters := [["a", "b", "c"].map located, ["d", "e"].map located],
        collected := [], feedback := []
        ledger := (({} : Ledger).loadAll [(Situation.new "s" 0).withAlarm (located "a").alarm,
          (Situation.new "t" 1).withAlarm (located "b").alarm]).1 }
    let draft := (new 9).moveAll [.ask (.associate "d" "unknown")]
    (draft.move (.run .merge facts .counting)).absorbed.toList = [("t", "s")] ∧
      draft.move (.evaluate [.merge] facts .counting) = draft := by
  decide +kernel

end Draft
end FaultCorrelation
