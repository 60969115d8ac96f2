import FaultCorrelation.Proofs.Policy.Completion

/-! # False negatives move alarms

Whatever rules a policy lists, and in whatever order, a false negative takes an alarm out of the
situation it belongs to if that is one of the ledger. A situation that has been begun in the same
tick is not looked for there: such a situation goes on showing the alarm. `Draft.Tidy` is what a
draft is like as long as that has not happened.
-/

namespace FaultCorrelation

open Std

namespace Draft

variable {ledger : Ledger} {scope : DraftScope} {draft next : Draft}

/-- Whether a situation that is being drafted shows an alarm that belongs to it, and no other
situation shows it. -/
structure Hosts (ledger : Ledger) (draft : Draft) (id alarm : String) : Prop where
  drafted : ∃ under, draft.situations[id]? = some under ∧ alarm ∈ under.alarms
  home : draft.homeOf? ledger alarm = some id
  alone : ∀ other, other ≠ id → draft.copy? ledger other alarm = none

/-- Whether an alarm belongs to a situation that has been begun in this tick. -/
def IsBegunWith (ledger : Ledger) (draft : Draft) (alarm : String) : Prop :=
  ∃ home, draft.homeOf? ledger alarm = some home ∧ home ∉ ledger.situations

/-- Whether the situations that have been begun show all alarms that belong to them. -/
def ShowsBegun (ledger : Ledger) (draft : Draft) : Prop :=
  ∀ alarm home : String, draft.homeOf? ledger alarm = some home → home ∉ ledger.situations →
    (draft.copy? ledger home alarm).isSome

namespace ShowsBegun

theorem new (housed : ledger.Housed) (time : Int) : (Draft.new time).ShowsBegun ledger := by
  intro alarm home belongs unknown
  rw [homeOf?_new] at belongs
  exact absurd (housed.home_known belongs) unknown

variable (shows : draft.ShowsBegun ledger)
include shows

/-- Changes that neither move an alarm nor hide one. -/
theorem congr (homes : ∀ alarm : String, next.homeOf? ledger alarm = draft.homeOf? ledger alarm)
    (copies : ∀ id alarm : String, (draft.copy? ledger id alarm).isSome →
      (next.copy? ledger id alarm).isSome) : next.ShowsBegun ledger := by
  intro alarm home belongs unknown
  rw [homes] at belongs
  exact copies home alarm (shows alarm home belongs unknown)

theorem step (coherent : draft.Coherent ledger) (step : DraftStep ledger scope draft next) :
    next.ShowsBegun ledger := by
  cases step with
  | reopen situation known live =>
    refine shows.congr (homeOf?_store _ · _) fun id alarm shown => ?_
    rw [copy?_store live]
    split
    · rename_i same
      rw [getElem?_opened known live, same]
      exact shown
    · exact shown
  | begin id fresh unknown unused =>
    have live := live_of_unknown coherent unknown
    refine shows.congr (homeOf?_store _ · _) fun other alarm shown => ?_
    rw [copy?_store live, if_neg]
    · exact shown
    · -- What is begun was not there and showed nothing.
      rintro rfl
      simp [copy?, Ledger.copy?, live, unused, unknown] at shown
  | @renew id drafted alarm allowed underway shown =>
    refine shows.congr (homeOf?_store _ · _) fun other copy before => ?_
    rw [copy?_store_put coherent underway]
    split
    · rfl
    · exact before
  | @join id drafted alarm allowed underway homeless =>
    intro other home belongs unknown
    have live := coherent.live (Collections.mem_of_getElem? underway)
    have copies : ((draft.associate alarm.id id).store id (drafted.put alarm)).copy? ledger home
        other = (draft.store id (drafted.put alarm)).copy? ledger home other := rfl
    rw [homeOf?_store, homeOf?_associate, resolve_of_not_mem live] at belongs
    rw [copies, copy?_store_put coherent underway]
    split at belongs
    · rename_i same
      rw [if_pos ⟨Option.some.inj belongs, same⟩, Option.isSome_some]
    · rename_i different
      rw [if_neg fun both => different both.2]
      exact shows other home belongs unknown
  | absorb other survivor known survives live target distinct =>
    intro alarm home belongs unknown
    rw [homeOf?_absorb live target distinct coherent.flat] at belongs
    obtain ⟨previous, before, moved⟩ := Option.map_eq_some_iff.mp belongs
    split at moved
    · rw [← moved] at unknown
      exact absurd (Collections.mem_of_getElem? survives) unknown
    subst moved
    have others {situation : Situation}
        (known : ledger.situations[situation.id]? = some situation) : situation.id ≠ previous := by
      rintro rfl
      exact unknown (Collections.mem_of_getElem? known)
    have kept : (draft.absorb other survivor).copy? ledger previous alarm =
        draft.copy? ledger previous alarm := by
      rw [copy?]
      simp only [mem_absorbed_absorb target distinct, getElem?_situations_absorb target distinct,
        others known, others survives, false_or, if_false]
      rfl
    rw [kept]
    exact shows alarm previous before unknown

theorem steps (grounded : ledger.Orderly) (coherent : draft.Coherent ledger)
    (steps : DraftSteps ledger scope draft next) : next.ShowsBegun ledger := by
  induction steps with
  | refl => exact shows
  | tail earlier step ih => exact ih.step (coherent.steps grounded earlier) step

end ShowsBegun

/-- What a draft is like as long as no false negative has been about an alarm of a situation begun
in this tick. -/
structure Tidy (facts : Facts) (draft : Draft) : Prop where
  coherent : draft.Coherent facts.ledger
  seated : draft.Seated facts
  shows : draft.ShowsBegun facts.ledger

theorem Tidy.new {facts : Facts} (sound : facts.Sound) (time : Int) :
    (Draft.new time).Tidy facts where
  coherent := coherent_new sound.coherent.orderly time
  seated := seated_new sound.coherent.housed time
  shows := .new sound.coherent.housed time

theorem Tidy.steps {facts : Facts} (tidy : draft.Tidy facts) (grounded : facts.ledger.Orderly)
    (steps : DraftSteps facts.ledger scope draft next) (seated : next.Seated facts) :
    next.Tidy facts where
  coherent := tidy.coherent.steps grounded steps
  seated := seated
  shows := tidy.shows.steps grounded tidy.coherent steps

end Draft

namespace Rule

variable {facts : Facts} {draft : Draft}

section Feedback

variable (tidy : draft.Tidy facts) (sound : facts.Sound) {feedback : Feedback}
include tidy

/-- A situation of the ledger has ended up in one of the ledger that is still there. -/
theorem resolve_known {id : String} (known : id ∈ facts.ledger.situations) :
    draft.resolve id ∈ facts.ledger.situations := by
  rw [Draft.resolve_eq tidy.coherent.flat]
  cases redirected : draft.absorbed[id]? with
  | none => exact known
  | some target => exact (tidy.seated.lodged.absorbed_known redirected).1

theorem known_of_resolve {id : String} (there : draft.resolve id ∈ facts.ledger.situations) :
    id ∈ facts.ledger.situations := by
  by_cases gone : id ∈ draft.absorbed
  · obtain ⟨target, redirected⟩ := Collections.exists_getElem? gone
    exact (tidy.coherent.absorbed_known redirected).1
  · rwa [Draft.resolve_of_not_mem gone] at there

include sound

theorem applyFalsePositive_showsBegun {situation : Situation}
    (known : facts.ledger.situations[situation.id]? = some situation)
    (live : situation.id ∉ draft.absorbed) (alarm : String) :
    (applyFalsePositive facts draft situation situation.id alarm).ShowsBegun facts.ledger := by
  obtain ⟨_, copies, homes⟩ :=
    applyFalsePositive_views tidy.coherent sound.coherent known live alarm
  have there := Collections.mem_of_getElem? known
  intro other home belongs unknown
  have elsewhere : situation.id ≠ home := fun same => unknown (same ▸ there)
  rw [copies, if_neg fun both => elsewhere both.1]
  apply tidy.shows other home _ unknown
  rw [homes] at belongs
  split at belongs
  · rename_i same
    subst same
    cases before : draft.homeOf? facts.ledger alarm with
    | none =>
      rw [before, Option.getD_none] at belongs
      exact absurd (Option.some.inj belongs) elsewhere
    | some previous =>
      rw [before, Option.getD_some] at belongs
      exact belongs
  · exact belongs

theorem applyFalseNegative_showsBegun {situation : Situation}
    (known : facts.ledger.situations[situation.id]? = some situation)
    (live : situation.id ∉ draft.absorbed) {alarm : Alarm}
    (placed : ∀ home, draft.homeOf? facts.ledger alarm.id = some home →
      home ∈ facts.ledger.situations) :
    (applyFalseNegative facts draft situation situation.id alarm).ShowsBegun facts.ledger := by
  obtain ⟨_, copies, homes⟩ :=
    applyFalseNegative_views tidy.coherent sound.coherent known live alarm placed
  intro other home belongs unknown
  rw [homes] at belongs
  rw [copies]
  split at belongs
  · rw [← Option.some.inj belongs] at unknown
    exact absurd (Collections.mem_of_getElem? known) unknown
  · rename_i different
    rw [if_neg different]
    exact tidy.shows other home belongs unknown

/-- Feedback keeps a draft tidy, but for a false negative on an alarm of a begun situation. -/
theorem applyFeedback_tidy (spared : feedback.verdict = .falseNegative →
      Heeds facts draft feedback → ¬ draft.IsBegunWith facts.ledger feedback.alarm) :
    (applyFeedback facts draft feedback).1.Tidy facts := by
  by_cases heeded : Heeds facts draft feedback
  case neg =>
    rw [applyFeedback_of_not_heeds heeded (known_of_resolve tidy)]
    exact tidy
  have seated := tidy.seated.resettles
    (applyFeedback_resettles tidy.seated.lodged sound.coherent.housed feedback)
  have live := Draft.resolve_not_mem tidy.coherent.flat feedback.situation
  obtain ⟨situation, known, named, ⟨_, changed⟩ | ⟨alarm, negative, same, changed⟩⟩ :=
    heeded.carries sound (resolve_known tidy heeded.1)
  · rw [← named] at live
    rw [changed] at seated ⊢
    exact ⟨(applyFalsePositive_views tidy.coherent sound.coherent known live _).1, seated,
      applyFalsePositive_showsBegun tidy sound known live _⟩
  · rw [← named] at live
    rw [changed] at seated ⊢
    have placed (home : String) (belongs : draft.homeOf? facts.ledger alarm.id = some home) :
        home ∈ facts.ledger.situations := by
      by_contra unknown
      exact spared negative heeded ⟨home, same ▸ belongs, unknown⟩
    exact ⟨(applyFalseNegative_views tidy.coherent sound.coherent known live alarm placed).1,
      seated, applyFalseNegative_showsBegun tidy sound known live placed⟩

/-- A false negative moves an alarm just when it does not belong to a situation begun in this
tick. -/
theorem applyFeedback_hosts_iff (negative : feedback.verdict = .falseNegative)
    (heeded : Heeds facts draft feedback) :
    let next := (applyFeedback facts draft feedback).1
    next.Hosts facts.ledger (next.resolve feedback.situation) feedback.alarm ↔
      ¬ draft.IsBegunWith facts.ledger feedback.alarm := by
  intro next
  have live := Draft.resolve_not_mem tidy.coherent.flat feedback.situation
  obtain ⟨situation, known, named, ⟨positive, _⟩ | ⟨alarm, _, same, changed⟩⟩ :=
    heeded.carries sound (resolve_known tidy heeded.1)
  · rw [negative] at positive
    contradiction
  have resolved : next.resolve feedback.situation = situation.id := by
    rw [named]
    apply Draft.resolve_congr
    change (applyFeedback facts draft feedback).1.absorbed = _
    rw [changed, absorbed_applyFalseNegative]
  rw [← named] at live
  rw [resolved, ← same]
  change Draft.Hosts facts.ledger (applyFeedback facts draft feedback).1 _ _ ↔ _
  rw [changed]
  constructor
  · rintro hosts ⟨home, belongs, unknown⟩
    have elsewhere : home ≠ situation.id := by
      rintro rfl
      exact unknown (Collections.mem_of_getElem? known)
    -- The home is not found in the ledger, so that nothing is taken out of it.
    have stays : applyFalseNegative facts draft situation situation.id alarm =
        (((draft.readmit situation.id alarm.id).associate alarm.id situation.id).revise situation
          fun under => under.put alarm) := by
      rw [applyFalseNegative, belongs]
      simp only [Option.bind_some, if_neg elsewhere, ExtTreeMap.getElem?_eq_none unknown]
    have remains : situation.id ∉ ((draft.readmit situation.id alarm.id).associate alarm.id
        situation.id).absorbed := live
    have hidden := hosts.alone home elsewhere
    rw [stays, Draft.copy?_put known remains, if_neg fun both => elsewhere both.1.symm] at hidden
    have shown : (draft.copy? facts.ledger home alarm.id).isSome :=
      tidy.shows alarm.id home belongs unknown
    rw [show draft.copy? facts.ledger home alarm.id = none from hidden] at shown
    contradiction
  · intro placed
    obtain ⟨coherent, copies, homes⟩ := applyFalseNegative_views tidy.coherent sound.coherent known
      live alarm fun home belongs => by
        by_contra unknown
        exact placed ⟨home, belongs, unknown⟩
    have shown := copies situation.id alarm.id
    rw [if_pos rfl, if_pos rfl] at shown
    refine ⟨?_, ?_, fun other different => ?_⟩
    · have underway : situation.id ∈
          (applyFalseNegative facts draft situation situation.id alarm).situations := by
        rw [applyFalseNegative]
        exact ExtTreeMap.mem_insert_self
      obtain ⟨under, found⟩ := Collections.exists_getElem? underway
      rw [Draft.copy?_of_underway coherent found] at shown
      exact ⟨under, found, Collections.mem_of_getElem? shown⟩
    · rw [homes, if_pos rfl]
    · rw [copies, if_pos rfl, if_neg (Ne.symm different)]

end Feedback

section Rules

variable (sound : facts.Sound)
include sound

theorem mergeCluster_tidy (tidy : draft.Tidy facts) {cluster : Cluster}
    (listed : cluster ∈ facts.clusters) : ∃ next count,
      mergeCluster facts draft cluster = .ok (next, count) ∧ next.Tidy facts := by
  have housed := sound.coherent.housed
  obtain ⟨next, count, merged, ways⟩ := mergeCluster_of_seated housed tidy.seated listed
  obtain ⟨same, _, again, settled⟩ := mergeCluster_resettles housed tidy.seated listed
  obtain ⟨rfl, rfl⟩ := Prod.mk.inj (Except.ok.inj (merged.symm.trans again))
  have steps := steps_of_merged (Policy.clusterScope facts fun _ => True) sound.coherent.orderly
    tidy.coherent (Policy.shows_clusterScope _ cluster listed) ways
  exact ⟨next, count, merged, tidy.steps sound.coherent.orderly steps
    (tidy.seated.resettles settled)⟩

theorem runMerge_tidy (tidy : draft.Tidy facts) (count : Nat) {clusters : List Cluster}
    (listed : ∀ cluster ∈ clusters, cluster ∈ facts.clusters) : ∃ next total,
      runMerge facts draft count clusters = (.ok total, next) ∧ next.Tidy facts := by
  induction clusters generalizing draft count with
  | nil => exact ⟨draft, count, rfl, tidy⟩
  | cons first rest ih =>
    obtain ⟨merged, changes, equal, settled⟩ :=
      mergeCluster_tidy sound tidy (listed first (List.mem_cons_self ..))
    obtain ⟨next, total, ran, last⟩ := ih settled (count + changes)
      fun cluster member => listed cluster (List.mem_cons_of_mem _ member)
    refine ⟨next, total, ?_, last⟩
    rw [runMerge, equal]
    exact ran

/-- Every rule but feedback keeps a draft tidy. -/
theorem run_tidy (apart : facts.Apart) {bench : Workbench} (tidy : bench.draft.Tidy facts)
    {rule : Rule} (other : rule ≠ .feedback)
    (fresh : ∀ n, bench.ids.next ≤ n → n < (rule.run facts bench).2.ids.next →
      bench.ids.name n ∉ facts.ledger.situations) :
    ∃ count after, rule.run facts bench = (.ok count, after) ∧ after.draft.Tidy facts := by
  cases rule with
  | collection =>
    obtain ⟨situations, homes, absorbed, _⟩ := runCollection_views facts bench.draft
    refine ⟨_, _, rfl, tidy.coherent.congr situations homes absorbed,
      tidy.seated.resettles (runCollection_resettles tidy.seated.lodged),
      tidy.shows.congr (Draft.homeOf?_congr homes absorbed) fun id alarm shown => ?_⟩
    change ((runCollection facts bench.draft).1.copy? facts.ledger id alarm).isSome
    rwa [Draft.copy?, situations, absorbed]
  | feedback => contradiction
  | merge =>
    obtain ⟨next, total, ran, last⟩ := runMerge_tidy sound tidy 0 fun cluster listed => listed
    refine ⟨total, { bench with draft := next }, ?_, last⟩
    rw [run, ran]
  | newSituation =>
    have steps := runNewSituation_steps bench (Policy.shows_clusterScope fun _ => True)
      fun n lower upper => ⟨trivial, fresh n lower upper⟩
    exact ⟨_, _, rfl, tidy.steps sound.coherent.orderly steps
      (runNewSituation_seated apart tidy.seated)⟩

end Rules
end Rule

namespace Policy

variable {facts : Facts} {now : Int} {ids : IdSource} {rules : List Rule}

/-- Whether an item of feedback finds a draft in an evaluation. -/
def Finds (rules : List Rule) (facts : Facts) (now : Int) (ids : IdSource) (feedback : Feedback)
    (draft : Draft) : Prop :=
  ∃ before after earlier later, rules = before ++ .feedback :: after ∧
    facts.feedback = earlier ++ feedback :: later ∧
    draft = Rule.applyItems facts (evaluate before facts { draft := .new now, ids }).1.draft earlier

/-- Whether a false negative finds a draft in an evaluation and is heeded. -/
def LetsIn (rules : List Rule) (facts : Facts) (now : Int) (ids : IdSource) (feedback : Feedback)
    (draft : Draft) : Prop :=
  Finds rules facts now ids feedback draft ∧ feedback.verdict = .falseNegative ∧
    Rule.Heeds facts draft feedback

/-- Whether all false negatives that are heeded in an evaluation move their alarms. -/
def Moves (rules : List Rule) (facts : Facts) (now : Int) (ids : IdSource) : Prop :=
  ∀ feedback draft, LetsIn rules facts now ids feedback draft →
    let next := (Rule.applyFeedback facts draft feedback).1
    next.Hosts facts.ledger (next.resolve feedback.situation) feedback.alarm

/-- Whether a false negative that is heeded in an evaluation is about an alarm of a situation that
has been begun in it. -/
def FindsBegun (rules : List Rule) (facts : Facts) (now : Int) (ids : IdSource) : Prop :=
  ∃ feedback draft, LetsIn rules facts now ids feedback draft ∧
    draft.IsBegunWith facts.ledger feedback.alarm

theorem evaluate_feedback (before : List Rule) (facts : Facts) (bench : Workbench) :
    (evaluate (before ++ [.feedback]) facts bench).1.draft =
      Rule.applyItems facts (evaluate before facts bench).1.draft facts.feedback := by
  rw [evaluate_concat, ← Rule.runFeedback_eq]
  rfl

section Tidy

variable (sound : facts.Sound)
include sound

/-- The drafts that feedback finds are tidy as long as no false negative is about an alarm of a
begun situation, if the draft that the first item finds is so. -/
theorem applyItems_tidy {before after : List Rule} (order : rules = before ++ .feedback :: after)
    (tidy : (evaluate before facts { draft := .new now, ids }).1.draft.Tidy facts)
    (spared : ∀ feedback draft, LetsIn rules facts now ids feedback draft → draft.Tidy facts →
      ¬ draft.IsBegunWith facts.ledger feedback.alarm)
    {earlier : List Feedback} (first : earlier <+: facts.feedback) :
    (Rule.applyItems facts (evaluate before facts { draft := .new now, ids }).1.draft
      earlier).Tidy facts := by
  induction earlier using List.reverseRecOn with
  | nil => exact tidy
  | append_singleton earlier feedback ih =>
    have before_tidy := ih ((List.prefix_append earlier _).trans first)
    obtain ⟨later, split⟩ := first
    rw [Rule.applyItems, List.foldl_append]
    refine Rule.applyFeedback_tidy before_tidy sound fun negative heeded => ?_
    refine spared feedback _ ⟨⟨before, after, earlier, later, order, ?_, rfl⟩, negative, heeded⟩
      before_tidy
    rw [← split, List.append_assoc]
    rfl

/-- Whatever the rules, drafts are tidy as long as no false negative is about an alarm of a begun
situation. -/
theorem evaluate_tidy (apart : facts.Apart)
    (fresh : ∀ n, ids.next ≤ n → n < (evaluate rules facts { draft := .new now, ids }).1.ids.next →
      ids.name n ∉ facts.ledger.situations)
    (spared : ∀ feedback draft, LetsIn rules facts now ids feedback draft → draft.Tidy facts →
      ¬ draft.IsBegunWith facts.ledger feedback.alarm)
    {before : List Rule} (first : before <+: rules) :
    (evaluate before facts { draft := .new now, ids }).1.draft.Tidy facts := by
  induction before using List.reverseRecOn with
  | nil => exact .new sound now
  | append_singleton before rule ih =>
    have tidy := ih ((List.prefix_append before _).trans first)
    obtain ⟨after, split⟩ := first
    have order : rules = before ++ rule :: after := by
      rw [← split, List.append_assoc]
      rfl
    by_cases feedback : rule = .feedback
    · subst feedback
      rw [evaluate_feedback]
      exact applyItems_tidy sound order tidy spared (List.prefix_refl _)
    · have drawn := evaluate_ids_le (before ++ [rule]) after facts { draft := .new now, ids }
      rw [split, evaluate_concat, applyRule_ids] at drawn
      obtain ⟨count, next, ran, last⟩ := Rule.run_tidy sound apart tidy feedback
        fun n lower upper => by
          have begun := evaluate_ids_le [] before facts { draft := .new now, ids }
          rw [evaluate_ids]
          exact fresh n (Nat.le_trans begun lower) (Nat.lt_of_lt_of_le upper drawn)
      rw [evaluate_concat, applyRule, ran]
      exact last

theorem Finds.tidy (apart : facts.Apart)
    (fresh : ∀ n, ids.next ≤ n → n < (evaluate rules facts { draft := .new now, ids }).1.ids.next →
      ids.name n ∉ facts.ledger.situations)
    (spared : ∀ feedback draft, LetsIn rules facts now ids feedback draft → draft.Tidy facts →
      ¬ draft.IsBegunWith facts.ledger feedback.alarm) {feedback : Feedback} {draft : Draft}
    (finds : Finds rules facts now ids feedback draft) : draft.Tidy facts := by
  obtain ⟨before, after, earlier, later, order, split, rfl⟩ := finds
  have tidy := evaluate_tidy sound apart fresh spared ⟨.feedback :: after, order.symm⟩
  exact applyItems_tidy sound order tidy spared ⟨feedback :: later, split.symm⟩

/-- All false negatives of an evaluation move their alarms just when none of them is about an alarm
of a situation that has been begun in it. -/
theorem moves_iff (apart : facts.Apart)
    (fresh : ∀ n, ids.next ≤ n → n < (evaluate rules facts { draft := .new now, ids }).1.ids.next →
      ids.name n ∉ facts.ledger.situations) :
    Moves rules facts now ids ↔ ¬ FindsBegun rules facts now ids := by
  constructor
  · rintro moves ⟨feedback, draft, lets, begun⟩
    have spared (feedback : Feedback) (draft : Draft)
        (lets : LetsIn rules facts now ids feedback draft) (tidy : draft.Tidy facts) :
        ¬ draft.IsBegunWith facts.ledger feedback.alarm :=
      (Rule.applyFeedback_hosts_iff tidy sound lets.2.1 lets.2.2).mp (moves feedback draft lets)
    exact spared feedback draft lets (lets.1.tidy sound apart fresh spared) begun
  · intro none feedback draft lets
    have spared (feedback : Feedback) (draft : Draft)
        (lets : LetsIn rules facts now ids feedback draft) (_ : draft.Tidy facts) :
        ¬ draft.IsBegunWith facts.ledger feedback.alarm :=
      fun begun => none ⟨feedback, draft, lets, begun⟩
    have tidy := lets.1.tidy sound apart fresh spared
    exact (Rule.applyFeedback_hosts_iff tidy sound lets.2.1 lets.2.2).mpr (spared _ _ lets tidy)

end Tidy

/-- Until a rule starts situations, all alarms belong to situations of the ledger. -/
theorem resettles_of_order (housed : facts.ledger.Housed) {before : List Rule}
    (settled : .newSituation ∉ before) :
    Draft.Resettles facts.ledger (.new now)
      (evaluate before facts { draft := .new now, ids }).1.draft := by
  induction before using List.reverseRecOn with
  | nil => exact (Draft.lodged_new facts.ledger now).refl
  | append_singleton before rule ih =>
    obtain ⟨earlier, last⟩ := not_or.mp (mt List.mem_append.mpr settled)
    have resettled := ih earlier
    have seated := (Draft.seated_new housed now).resettles resettled
    obtain ⟨count, next, ran, again⟩ := Rule.run_resettles housed seated
      fun same => last (List.mem_singleton.mpr same.symm)
    rw [evaluate_concat, applyRule, ran]
    exact resettled.trans again

theorem not_findsBegun_of_order (housed : facts.ledger.Housed)
    (order : ∀ before after, rules = before ++ .feedback :: after → .newSituation ∉ before) :
    ¬ FindsBegun rules facts now ids := by
  rintro ⟨feedback, draft, ⟨⟨before, after, earlier, later, split, _, rfl⟩, _⟩, home, belongs,
    unknown⟩
  have evaluated : Draft.Resettles facts.ledger (.new now)
      (evaluate before facts { draft := .new now, ids }).1.draft :=
    resettles_of_order housed (order before after split)
  have heard : Draft.Resettles facts.ledger _ (Rule.applyItems facts _ earlier) :=
    Draft.resettles_foldl
      (fun _ lodged feedback _ => Rule.applyFeedback_resettles lodged housed feedback)
      evaluated.lodged
  have before := ((evaluated.trans heard).moved belongs).resolve_right unknown
  rw [Draft.homeOf?_new] at before
  exact unknown (housed.home_known before)

end Policy
end FaultCorrelation
