import Mathlib.Data.List.Induction
import FaultCorrelation.Policy.Evaluation
import FaultCorrelation.Proofs.Ledger.Commitment
import FaultCorrelation.Proofs.Policy.Merging

/-! # Evaluating the default policy

In the default order no rule fails. The draft comes about in two parts: garbage collection and
feedback lead to a draft in which nothing has been absorbed or begun, and from there elementary
steps lead to the draft that is committed. What the commit shows and keeps out is told by the first
of the two drafts and by where situations have gone.
-/

namespace FaultCorrelation

open Std

namespace Rule

variable {facts : Facts} {scope : DraftScope} {bench : Workbench}

/-- Beginning the draft of a new situation, or taking it up where it is under way. -/
theorem steps_openedNew {ledger : Ledger} {draft : Draft} {id : String} (fresh : scope.Begins id)
    (unknown : id ∉ ledger.situations) :
    DraftSteps ledger scope draft (draft.store id (draft.openedNew id)) := by
  by_cases underway : id ∈ draft.situations
  · obtain ⟨drafted, found⟩ := Collections.exists_getElem? underway
    have same : draft.openedNew id = drafted := by
      rw [Draft.openedNew, ExtTreeMap.getD_eq_getD_getElem?, found, Option.getD_some]
    rw [same, Draft.store_of_underway found]
  · have same : draft.openedNew id = .start id draft.time := by
      rw [Draft.openedNew, ExtTreeMap.getD_eq_getD_getElem?, ExtTreeMap.getElem?_eq_none underway,
        Option.getD_none]
    rw [same]
    exact .single (.begin id fresh unknown underway)

/-- A cluster is left alone if it is empty or an alarm of it belongs somewhere. Otherwise a
situation is started for it, under the next id. -/
theorem startSituation_spec (facts : Facts) (bench : Workbench) (cluster : Cluster) :
    (cluster = [] ∨ ∃ located ∈ cluster,
        (bench.draft.homeOf? facts.ledger located.alarm.id).isSome) ∧
      (startSituation facts bench cluster).1 = bench ∨
    (cluster ≠ [] ∧ ∀ located ∈ cluster,
        bench.draft.homeOf? facts.ledger located.alarm.id = none) ∧
      let alarms := cluster.map LocatedAlarm.alarm
      let id := bench.ids.name bench.ids.next
      (startSituation facts bench cluster).1 =
        { draft := (bench.draft.reviseNew id fun under => under.putAll alarms).associateAll
            (alarms.map Alarm.id) id
          ids := { bench.ids with next := bench.ids.next + 1 } } := by
  rw [startSituation]
  dsimp only
  split
  · rename_i left
    refine .inl ⟨left.imp (fun empty => ?_) (fun belongs => ?_), rfl⟩
    · exact List.map_eq_nil_iff.mp (List.isEmpty_iff.mp empty)
    · obtain ⟨_, listed, housed⟩ := List.any_eq_true.mp belongs
      obtain ⟨located, member, rfl⟩ := List.mem_map.mp listed
      exact ⟨located, member, housed⟩
  · rename_i started
    obtain ⟨nonempty, none⟩ := not_or.mp started
    refine .inr ⟨⟨?_, fun located member => ?_⟩, rfl⟩
    · rintro rfl
      exact nonempty rfl
    · refine Option.not_isSome_iff_eq_none.mp fun housed => ?_
      exact none (List.any_eq_true.mpr ⟨_, List.mem_map_of_mem member, housed⟩)

theorem startSituation_ids (facts : Facts) (bench : Workbench) (cluster : Cluster) :
    (startSituation facts bench cluster).1.ids.name = bench.ids.name ∧
      bench.ids.next ≤ (startSituation facts bench cluster).1.ids.next := by
  rcases startSituation_spec facts bench cluster with ⟨_, left⟩ | ⟨_, started⟩
  · rw [left]
    exact ⟨rfl, Nat.le_refl _⟩
  · rw [started]
    exact ⟨rfl, Nat.le_succ _⟩

/-- A situation is started step by step, under an id that is drawn for it. -/
theorem startSituation_steps {cluster : Cluster}
    (allowed : ∀ located ∈ cluster, scope.Shows located.alarm)
    (drawn : bench.ids.next < (startSituation facts bench cluster).1.ids.next →
      scope.Begins (bench.ids.name bench.ids.next) ∧
        bench.ids.name bench.ids.next ∉ facts.ledger.situations) :
    DraftSteps facts.ledger scope bench.draft (startSituation facts bench cluster).1.draft := by
  rcases startSituation_spec facts bench cluster with ⟨_, left⟩ | ⟨⟨_, homeless⟩, started⟩
  · rw [left]
  rw [started] at drawn ⊢
  obtain ⟨fresh, unknown⟩ := drawn (Nat.lt_succ_self _)
  have opened : DraftSteps facts.ledger scope bench.draft _ := steps_openedNew fresh unknown
  have permitted : ∀ alarm ∈ cluster.map LocatedAlarm.alarm, scope.Shows alarm := by
    intro alarm member
    obtain ⟨located, present, rfl⟩ := List.mem_map.mp member
    exact allowed located present
  have nowhere : ∀ alarm ∈ cluster.map LocatedAlarm.alarm,
      bench.draft.homeOf? facts.ledger alarm.id = none := by
    intro alarm member
    obtain ⟨located, present, rfl⟩ := List.mem_map.mp member
    exact homeless located present
  have joined : DraftSteps facts.ledger scope (bench.draft.store (bench.ids.name bench.ids.next)
      (bench.draft.openedNew (bench.ids.name bench.ids.next))) _ :=
    Draft.steps_join permitted Draft.underway_store fun alarm member =>
      .inl ((Draft.homeOf?_store _ _ _).trans (nowhere alarm member))
  rw [Draft.associateAll_store, Draft.store_store, ← Draft.associateAll_store] at joined
  exact opened.trans joined

theorem runNewSituation_eq : (runNewSituation facts bench).1 =
    facts.clusters.foldl (fun bench cluster => (startSituation facts bench cluster).1) bench :=
  Collections.foldl_counted (fun bench cluster => (startSituation facts bench cluster).1)
    (fun bench cluster => (startSituation facts bench cluster).2.toNat) facts.clusters bench 0

theorem foldl_startSituation_ids (facts : Facts) (bench : Workbench) (clusters : List Cluster) :
    let after := clusters.foldl (fun bench cluster => (startSituation facts bench cluster).1) bench
    after.ids.name = bench.ids.name ∧ bench.ids.next ≤ after.ids.next := by
  induction clusters generalizing bench with
  | nil => exact ⟨rfl, Nat.le_refl _⟩
  | cons first rest ih =>
    obtain ⟨name, next⟩ := startSituation_ids facts bench first
    obtain ⟨others, later⟩ := ih (startSituation facts bench first).1
    exact ⟨others.trans name, Nat.le_trans next later⟩

/-- Ids are drawn from the supply, which stays the same. -/
theorem run_ids (facts : Facts) (bench : Workbench) (rule : Rule) :
    (rule.run facts bench).2.ids.name = bench.ids.name ∧
      bench.ids.next ≤ (rule.run facts bench).2.ids.next := by
  cases rule with
  | newSituation =>
    change (runNewSituation facts bench).1.ids.name = _ ∧
      _ ≤ (runNewSituation facts bench).1.ids.next
    rw [runNewSituation_eq]
    exact foldl_startSituation_ids facts bench facts.clusters
  | _ => exact ⟨rfl, Nat.le_refl _⟩

theorem runNewSituation_steps (bench : Workbench)
    (allowed : ∀ cluster ∈ facts.clusters, ∀ located ∈ cluster, scope.Shows located.alarm)
    (drawn : ∀ n, bench.ids.next ≤ n → n < (runNewSituation facts bench).1.ids.next →
      scope.Begins (bench.ids.name n) ∧ bench.ids.name n ∉ facts.ledger.situations) :
    DraftSteps facts.ledger scope bench.draft (runNewSituation facts bench).1.draft := by
  rw [runNewSituation_eq] at drawn ⊢
  generalize facts.clusters = clusters at allowed drawn ⊢
  induction clusters generalizing bench with
  | nil => exact .refl
  | cons first rest ih =>
    obtain ⟨name, next⟩ := startSituation_ids facts bench first
    have later := (foldl_startSituation_ids facts (startSituation facts bench first).1 rest).2
    refine (startSituation_steps (allowed first (List.mem_cons_self ..)) fun starts => ?_).trans
      (ih _ (fun cluster member => allowed cluster (List.mem_cons_of_mem _ member))
        fun n lower upper => ?_)
    · exact drawn _ (Nat.le_refl _) (Nat.lt_of_lt_of_le starts later)
    · rw [name]
      exact drawn n (Nat.le_trans next lower) upper

end Rule

namespace Policy

variable {facts : Facts} {ids : IdSource}

/-- The draft of a tick once garbage collection and feedback have been dealt with. -/
def correctedDraft (facts : Facts) (now : Int) : Draft :=
  (Rule.runFeedback facts (Rule.runCollection facts (.new now)).1).1

/-- The draft of a tick once clusters have been merged. -/
def mergedDraft (facts : Facts) (now : Int) : Draft :=
  (Rule.runMerge facts (correctedDraft facts now) 0 facts.clusters).2

theorem collected_plain (sound : facts.Sound) (now : Int) :
    (Rule.runCollection facts (.new now)).1.Plain facts.ledger :=
  Rule.runCollection_plain (.new sound.coherent now)

theorem correctedDraft_plain (sound : facts.Sound) (now : Int) :
    (correctedDraft facts now).Plain facts.ledger := by
  rw [correctedDraft, Rule.runFeedback_eq]
  exact Rule.applyItems_plain (collected_plain sound now) sound

/-- Feedback on other alarms does not change where an alarm is shown. -/
theorem correctedDraft_copy? (sound : facts.Sound) (now : Int) {alarm : String}
    (spared : ∀ feedback ∈ facts.feedback,
      feedback.verdict = .falsePositive ∨ feedback.verdict = .falseNegative →
        feedback.alarm ≠ alarm) (id : String) :
    (correctedDraft facts now).copy? facts.ledger id alarm = facts.ledger.copy? id alarm := by
  have plain := collected_plain sound now
  obtain ⟨situations, _, absorbed, _⟩ := Rule.runCollection_views facts (.new now)
  rw [correctedDraft, Rule.runFeedback_eq, Rule.applyItems_copy? plain sound spared, Draft.copy?,
    situations, absorbed]
  exact Draft.copy?_new now id alarm

/-- False positives and feedback on other alarms do not end where an alarm belongs. -/
theorem correctedDraft_homeOf? (sound : facts.Sound) (now : Int) {alarm home : String}
    (kept : ∀ feedback ∈ facts.feedback, feedback.verdict = .falseNegative →
      feedback.alarm ≠ alarm)
    (belongs : facts.ledger.homes[alarm]? = some home) :
    (correctedDraft facts now).homeOf? facts.ledger alarm = some home := by
  have plain := collected_plain sound now
  obtain ⟨_, homes, absorbed, _⟩ := Rule.runCollection_views facts (.new now)
  rw [correctedDraft, Rule.runFeedback_eq]
  apply Rule.applyItems_homeOf? plain sound kept
  rw [Draft.homeOf?_congr homes absorbed, Draft.homeOf?_new, belongs]

/-- Only false negatives on an alarm in a situation ask to lift its exclusion. -/
theorem correctedDraft_inclusions (sound : facts.Sound) (now : Int) {id alarm : String}
    (kept : ∀ feedback ∈ facts.feedback, feedback.verdict = .falseNegative →
      feedback.situation = id → feedback.alarm ≠ alarm) :
    ⟨id, alarm⟩ ∉ (correctedDraft facts now).inclusions := by
  have plain := collected_plain sound now
  rw [correctedDraft, Rule.runFeedback_eq]
  apply Rule.applyItems_inclusions plain sound kept
  rw [(Rule.runCollection_views facts (.new now)).2.2.2]
  simp [Draft.new]

theorem correctedDraft_falsePositive (sound : facts.Sound) (now : Int)
    {earlier later : List Feedback} {feedback : Feedback}
    (pending : facts.feedback = earlier ++ feedback :: later)
    (positive : feedback.verdict = .falsePositive)
    (known : feedback.situation ∈ facts.ledger.situations)
    (kept : ∀ other ∈ later, other.verdict = .falseNegative →
      other.situation = feedback.situation → other.alarm ≠ feedback.alarm) :
    ⟨feedback.situation, feedback.alarm⟩ ∈ (correctedDraft facts now).exclusions ∧
      ⟨feedback.situation, feedback.alarm⟩ ∉ (correctedDraft facts now).inclusions := by
  have plain := collected_plain sound now
  rw [correctedDraft, Rule.runFeedback_eq, pending]
  exact Rule.applyItems_falsePositive plain sound positive known kept

/-- The steps that bring in nothing but the alarms of the clusters, and begin situations under some
ids only. -/
def clusterScope (facts : Facts) (Begins : String → Prop) : DraftScope where
  Begins := Begins
  Shows alarm := ∃ cluster ∈ facts.clusters, ∃ located ∈ cluster, located.alarm = alarm

theorem shows_clusterScope (Begins : String → Prop) : ∀ cluster ∈ facts.clusters,
    ∀ located ∈ cluster, (clusterScope facts Begins).Shows located.alarm :=
  fun cluster member located present => ⟨cluster, member, located, present, rfl⟩

theorem runMerge_correctedDraft (sound : facts.Sound) (now : Int) :
    ∃ next total, Rule.runMerge facts (correctedDraft facts now) 0 facts.clusters =
        (.ok total, next) ∧
      DraftSteps facts.ledger (clusterScope facts fun _ => False) (correctedDraft facts now) next :=
  have plain := correctedDraft_plain sound now
  Rule.runMerge_steps _ sound.coherent.orderly plain.coherent plain.settled
    (fun _ begins => begins) 0 (shows_clusterScope _)

theorem mergedDraft_steps (sound : facts.Sound) (now : Int) :
    DraftSteps facts.ledger (clusterScope facts fun _ => False) (correctedDraft facts now)
      (mergedDraft facts now) := by
  obtain ⟨next, total, ran, steps⟩ := runMerge_correctedDraft sound now
  rw [mergedDraft, ran]
  exact steps

/-- In the default order no rule fails if merging does not, and the new situations come last. -/
theorem evaluate_of_merged {now : Int} {total : Nat} {next : Draft}
    (ran : Rule.runMerge facts (correctedDraft facts now) 0 facts.clusters = (.ok total, next))
    (ids : IdSource) :
    (evaluate Rule.defaultOrder facts { draft := .new now, ids }).1 =
        (Rule.runNewSituation facts { draft := mergedDraft facts now, ids }).1 ∧
      (evaluate Rule.defaultOrder facts { draft := .new now, ids }).2.failures = [] := by
  have merged : mergedDraft facts now = next := by rw [mergedDraft, ran]
  rw [correctedDraft] at ran
  simp only [evaluate, Rule.defaultOrder, List.foldl_cons, List.foldl_nil, applyRule, Rule.run, ran,
    merged, and_self]

theorem evaluate_defaultOrder (sound : facts.Sound) (now : Int) (ids : IdSource) :
    (evaluate Rule.defaultOrder facts { draft := .new now, ids }).1 =
        (Rule.runNewSituation facts { draft := mergedDraft facts now, ids }).1 ∧
      (evaluate Rule.defaultOrder facts { draft := .new now, ids }).2.failures = [] := by
  obtain ⟨next, total, ran, _⟩ := runMerge_correctedDraft sound now
  exact evaluate_of_merged ran ids

/-- Ids that a failing rule drew stay drawn. -/
theorem applyRule_ids (facts : Facts) (bench : Workbench) (report : EvaluationReport)
    (rule : Rule) : (applyRule facts bench report rule).1.ids = (rule.run facts bench).2.ids := by
  rw [applyRule]
  split <;> rename_i outcome <;> rw [outcome]

theorem evaluate_concat (rules : List Rule) (rule : Rule) (facts : Facts) (bench : Workbench) :
    evaluate (rules ++ [rule]) facts bench =
      applyRule facts (evaluate rules facts bench).1 (evaluate rules facts bench).2 rule := by
  rw [evaluate, List.foldl_append]
  rfl

theorem evaluate_ids (rules : List Rule) (facts : Facts) (bench : Workbench) :
    (evaluate rules facts bench).1.ids.name = bench.ids.name := by
  induction rules using List.reverseRecOn with
  | nil => rfl
  | append_singleton rules rule ih =>
    rw [evaluate_concat, applyRule_ids]
    exact (Rule.run_ids facts _ rule).1.trans ih

/-- Rules to come draw their ids behind those that have been drawn. -/
theorem evaluate_ids_le (rules later : List Rule) (facts : Facts) (bench : Workbench) :
    (evaluate rules facts bench).1.ids.next ≤
      (evaluate (rules ++ later) facts bench).1.ids.next := by
  induction later using List.reverseRecOn with
  | nil => exact Nat.le_of_eq (by rw [List.append_nil])
  | append_singleton later rule ih =>
    rw [← List.append_assoc, evaluate_concat, applyRule_ids]
    exact Nat.le_trans ih (Rule.run_ids facts _ rule).2

/-- The draft that the default policy comes to. -/
def finalDraft (facts : Facts) (now : Int) (ids : IdSource) : Draft :=
  (evaluate Rule.defaultOrder facts { draft := .new now, ids }).1.draft

/-- The ids drawn in an evaluation are not those of situations in the ledger. -/
def DrawsFresh (facts : Facts) (now : Int) (ids : IdSource) : Prop :=
  ∀ n, ids.next ≤ n →
    n < (evaluate Rule.defaultOrder facts { draft := .new now, ids }).1.ids.next →
      ids.name n ∉ facts.ledger.situations

/-- Starting situations takes steps that begin situations under ids of the supply. -/
theorem finalDraft_steps (sound : facts.Sound) {now : Int} (fresh : DrawsFresh facts now ids) :
    DraftSteps facts.ledger (clusterScope facts fun id => ∃ n, ids.name n = id)
      (mergedDraft facts now) (finalDraft facts now ids) := by
  rw [DrawsFresh, (evaluate_defaultOrder sound now ids).1] at fresh
  rw [finalDraft, (evaluate_defaultOrder sound now ids).1]
  exact Rule.runNewSituation_steps { draft := mergedDraft facts now, ids } (shows_clusterScope _)
    fun n lower upper => ⟨⟨n, rfl⟩, fresh n lower upper⟩

theorem finalDraft_coherent (sound : facts.Sound) {now : Int} (fresh : DrawsFresh facts now ids) :
    (finalDraft facts now ids).Coherent facts.ledger :=
  ((correctedDraft_plain sound now).coherent.steps sound.coherent.orderly
    (mergedDraft_steps sound now)).steps sound.coherent.orderly (finalDraft_steps sound fresh)

/-- Every situation drafted is one of the ledger or has an id of the supply. -/
theorem mem_finalDraft (sound : facts.Sound) {now : Int} (fresh : DrawsFresh facts now ids)
    {id : String} (member : id ∈ (finalDraft facts now ids).situations) :
    id ∈ facts.ledger.situations ∨ ∃ n, ids.name n = id := by
  rcases Draft.mem_situations_of_steps (finalDraft_steps sound fresh) member with
    merged | known | drawn
  · exact .inl ((correctedDraft_plain sound now).settled.steps (fun _ begins => begins)
      (mergedDraft_steps sound now) id merged)
  · exact .inl known
  · exact .inr drawn

/-- Merging and starting situations show where its situation has gone what was shown before. -/
theorem finalDraft_continues (sound : facts.Sound) {now : Int} (fresh : DrawsFresh facts now ids) :
    Draft.Continues facts.ledger (correctedDraft facts now) (finalDraft facts now ids) := by
  have plain := correctedDraft_plain sound now
  have merged := mergedDraft_steps sound now
  have orderly := sound.coherent.orderly
  have begun := (Draft.continues_self plain.untouched).steps orderly plain.coherent
    plain.coherent merged
  exact begun.steps orderly plain.coherent (plain.coherent.steps orderly merged)
    (finalDraft_steps sound fresh)

section Committed

variable {now : Int} {after : Ledger} (sound : facts.Sound) (fresh : DrawsFresh facts now ids)
  (committed : facts.ledger.Committed (finalDraft facts now ids) after)
include sound fresh committed

/-- A commit shows what was shown once feedback had been applied, where its situation has gone, and
alarms that belonged nowhere then. -/
theorem shows_committed_iff (id alarm : String) : after.Shows id alarm ↔
    (∃ other, ((correctedDraft facts now).copy? facts.ledger other alarm).isSome ∧
      (finalDraft facts now ids).resolve other = id) ∨
    (correctedDraft facts now).homeOf? facts.ledger alarm = none ∧
      (finalDraft facts now ids).homeOf? facts.ledger alarm = some id :=
  (committed.shows_iff (finalDraft_coherent sound fresh)).trans
    ((finalDraft_continues sound fresh).shown_iff id alarm)

/-- A commit keeps out what the ledger and feedback keep out, of the situation that theirs has gone
to, unless feedback lifts the exclusion there. -/
theorem excluded_committed_iff (id alarm : String) : ⟨id, alarm⟩ ∈ after.exclusions ↔
    id ∈ after.situations ∧ ⟨id, alarm⟩ ∉ (correctedDraft facts now).inclusions ∧
      ∃ keeper, (⟨keeper, alarm⟩ ∈ facts.ledger.exclusions ∨
        ⟨keeper, alarm⟩ ∈ (correctedDraft facts now).exclusions) ∧
        (finalDraft facts now ids).resolve keeper = id := by
  have continues := finalDraft_continues sound fresh
  rw [committed.mem_exclusions, continues.inclusions_eq, continues.mem_exclusions, ← exists_or]
  simp only [← or_and_right, or_comm]

end Committed

end Policy
end FaultCorrelation
