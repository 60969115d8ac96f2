import Mathlib.Data.List.Induction
import FaultCorrelation.Proofs.Policy.Evaluation

/-! # Why alarms are hidden

An alarm is hidden from the situation it belongs to by feedback only, and feedback leaves an
exclusion behind. Merging sends the exclusion along with the alarm to the situation that absorbs its
own, but not the other way round: if feedback had let the alarm into that situation before, then
lifting exclusions there lifts this one as well. `Policy.Forgets` says when that happens.
-/

namespace FaultCorrelation

open Std

/-- Whether every alarm is shown by the situation it belongs to or kept out of it. -/
def Ledger.AccountsForHidden (ledger : Ledger) : Prop :=
  ∀ id alarm : String, ledger.homes[alarm]? = some id →
    ledger.Shows id alarm ∨ ⟨id, alarm⟩ ∈ ledger.exclusions

/-- Whether every alarm is shown by the situation it belongs to or kept out of it, as a draft has
it. -/
def Draft.AccountsForHidden (ledger : Ledger) (draft : Draft) : Prop :=
  ∀ id alarm : String, draft.homeOf? ledger alarm = some id →
    (draft.copy? ledger id alarm).isSome ∨ draft.isExcluded ledger id alarm

theorem Draft.isExcluded_iff {draft : Draft} {ledger : Ledger} {id alarm : String} :
    draft.isExcluded ledger id alarm ↔ ⟨id, alarm⟩ ∉ draft.inclusions ∧
      (⟨id, alarm⟩ ∈ draft.exclusions ∨ ⟨id, alarm⟩ ∈ ledger.exclusions) := by
  simp only [isExcluded, Ledger.isExcluded, Bool.and_eq_true, Bool.not_eq_true', Bool.or_eq_true,
    ← Bool.not_eq_true, ExtTreeSet.contains_iff_mem]

namespace Ledger.AccountsForHidden

variable {ledger : Ledger}

theorem empty : AccountsForHidden {} := by
  intro id alarm belongs
  simp at belongs

variable (accounts : ledger.AccountsForHidden)
include accounts

theorem excluded {id alarm : String} (belongs : ledger.homes[alarm]? = some id)
    (hidden : ledger.copy? id alarm = none) : ⟨id, alarm⟩ ∈ ledger.exclusions := by
  refine (accounts id alarm belongs).resolve_left fun shown => ?_
  rw [shows_iff, hidden] at shown
  contradiction

/-- What a situation claims it shows. -/
theorem load (situation : Situation) : (ledger.load situation).1.AccountsForHidden := by
  obtain same | takes := ledger.load_cases situation
  · rw [same]
    exact accounts
  intro id alarm belongs
  rw [takes.getElem?_homes] at belongs
  split at belongs
  · rename_i claimed
    refine .inl ⟨ledger.unclaimed situation, ?_, claimed⟩
    rw [takes.getElem?_situations, if_pos (Option.some.inj belongs)]
  · rw [takes.exclusions_eq]
    refine (accounts id alarm belongs).imp_left fun ⟨holder, found, shown⟩ => ⟨holder, ?_, shown⟩
    rw [takes.getElem?_situations, if_neg, found]
    rintro rfl
    exact takes.unknown (Collections.mem_of_getElem? found)

theorem loadAll (situations : List Situation) :
    (ledger.loadAll situations).1.AccountsForHidden := by
  rw [loadAll_eq]
  exact List.foldlRecOn situations _ (motive := AccountsForHidden) accounts
    fun _ before situation _ => before.load situation

theorem delete (id : String) : (ledger.delete id).AccountsForHidden := by
  intro other alarm belongs
  simp only [Ledger.delete, ExtTreeMap.getElem?_filter', Option.filter_eq_some_iff,
    bne_iff_ne] at belongs
  obtain ⟨belongs, different⟩ := belongs
  rcases accounts other alarm belongs with ⟨situation, found, shown⟩ | excluded
  · refine .inl ⟨situation, ?_, shown⟩
    rw [Ledger.delete, ExtTreeMap.getElem?_erase, if_neg, found]
    rw [LawfulEqOrd.compare_eq_iff_eq]
    exact different.symm
  · exact .inr (Collections.mem_filter.mpr ⟨excluded, bne_iff_ne.mpr different⟩)

end Ledger.AccountsForHidden

namespace Rule

variable {facts : Facts} {draft : Draft}

section Verdicts

variable (plain : draft.Plain facts.ledger) (sound : facts.Sound) {situation : Situation}
  (known : facts.ledger.situations[situation.id]? = some situation)
  (accounts : draft.AccountsForHidden facts.ledger)
include plain sound known accounts

omit accounts in
/-- A false positive moves no alarm but the one that it hides, and this one only if it belonged
nowhere. -/
theorem homeOf?_of_applyFalsePositive {alarm other id : String}
    (belongs : (applyFalsePositive facts draft situation situation.id alarm).homeOf? facts.ledger
      other = some id) (spared : ¬ (situation.id = id ∧ alarm = other)) :
    draft.homeOf? facts.ledger other = some id := by
  obtain ⟨_, _, homes⟩ := applyFalsePositive_spec plain sound known alarm
  rw [homes] at belongs
  split at belongs
  · rename_i same
    subst same
    cases previous : draft.homeOf? facts.ledger alarm with
    | none =>
      rw [previous] at belongs
      exact absurd ⟨Option.some.inj belongs, rfl⟩ spared
    | some home =>
      rw [previous] at belongs
      exact belongs
  · exact belongs

/-- A false positive keeps out the alarm that it hides. -/
theorem applyFalsePositive_accounts (alarm : String) :
    (applyFalsePositive facts draft situation situation.id alarm).AccountsForHidden
      facts.ledger := by
  obtain ⟨_, copies, _⟩ := applyFalsePositive_spec plain sound known alarm
  obtain ⟨exclusions, inclusions⟩ :=
    exclusions_applyFalsePositive facts draft situation situation.id alarm
  intro id other belongs
  simp only [copies, Draft.isExcluded_iff, exclusions, inclusions, ExtTreeSet.mem_erase,
    ExtTreeSet.mem_insert, ne_eq, LawfulEqOrd.compare_eq_iff_eq, Exclusion.mk.injEq]
  by_cases hidden : situation.id = id ∧ alarm = other
  · exact .inr ⟨fun lifted => lifted.1 hidden, .inl (.inl hidden)⟩
  have before := homeOf?_of_applyFalsePositive plain sound known belongs hidden
  rw [if_neg hidden]
  refine (accounts id other before).imp_right fun excluded => ?_
  obtain ⟨kept, present⟩ := Draft.isExcluded_iff.mp excluded
  exact ⟨fun lifted => kept lifted.2, present.imp_left .inr⟩

/-- A false negative shows the alarm where it belongs from now on. -/
theorem applyFalseNegative_accounts (alarm : Alarm) :
    (applyFalseNegative facts draft situation situation.id alarm).AccountsForHidden
      facts.ledger := by
  obtain ⟨_, copies, homes⟩ := applyFalseNegative_spec plain sound known alarm
  obtain ⟨exclusions, inclusions⟩ :=
    exclusions_applyFalseNegative facts draft situation situation.id alarm
  intro id other belongs
  rw [homes] at belongs
  rw [copies]
  split at belongs
  · rename_i same
    exact .inl (by rw [if_pos same, if_pos (Option.some.inj belongs), Option.isSome_some])
  · rename_i different
    rw [if_neg different]
    refine (accounts id other belongs).imp_right fun excluded => ?_
    obtain ⟨kept, present⟩ := Draft.isExcluded_iff.mp excluded
    have apart : (⟨situation.id, alarm.id⟩ : Exclusion) ≠ ⟨id, other⟩ :=
      fun equal => different (Exclusion.mk.inj equal).2
    simp only [Draft.isExcluded_iff, exclusions, inclusions, ExtTreeSet.mem_erase,
      ExtTreeSet.mem_insert, ne_eq, LawfulEqOrd.compare_eq_iff_eq]
    exact ⟨not_or.mpr ⟨apart, kept⟩, present.imp_left fun member => ⟨apart, member⟩⟩

end Verdicts

theorem applyFeedback_accounts (plain : draft.Plain facts.ledger) (sound : facts.Sound)
    (accounts : draft.AccountsForHidden facts.ledger) (feedback : Feedback) :
    (applyFeedback facts draft feedback).1.AccountsForHidden facts.ledger := by
  rcases applyFeedback_cases plain sound feedback with
    unchanged | ⟨situation, known, _, ⟨_, changed⟩ | ⟨alarm, _, _, changed⟩⟩
  · rw [unchanged]
    exact accounts
  · rw [changed]
    exact applyFalsePositive_accounts plain sound known accounts _
  · rw [changed]
    exact applyFalseNegative_accounts plain sound known accounts alarm

theorem applyItems_accounts (plain : draft.Plain facts.ledger) (sound : facts.Sound)
    (accounts : draft.AccountsForHidden facts.ledger) (items : List Feedback) :
    (applyItems facts draft items).AccountsForHidden facts.ledger := by
  induction items generalizing draft with
  | nil => exact accounts
  | cons first rest ih =>
    exact ih (applyFeedback_plain plain sound first)
      (applyFeedback_accounts plain sound accounts first)

/-- Whether feedback asks to show an alarm in a situation. -/
def Lets (feedback : Feedback) (situation alarm : String) : Prop :=
  feedback.verdict = .falseNegative ∧ feedback.situation = situation ∧ feedback.alarm = alarm

/-- Whether feedback asks to hide an alarm from a situation. -/
def Ousts (feedback : Feedback) (situation alarm : String) : Prop :=
  feedback.verdict = .falsePositive ∧ feedback.situation = situation ∧ feedback.alarm = alarm

section Overtaking

variable {target home alarm : String} (plain : draft.Plain facts.ledger) (sound : facts.Sound)
include plain sound

/-- After one item of feedback, an alarm is let into one situation and hidden from another, where it
belongs, only if it was let in before, and hidden before or by this item. -/
theorem applyFeedback_hides {feedback : Feedback}
    (lifted : ⟨target, alarm⟩ ∈ (applyFeedback facts draft feedback).1.inclusions)
    (belongs : (applyFeedback facts draft feedback).1.homeOf? facts.ledger alarm = some home)
    (hidden : (applyFeedback facts draft feedback).1.copy? facts.ledger home alarm = none) :
    ⟨target, alarm⟩ ∈ draft.inclusions ∧ (Ousts feedback home alarm ∧ target ≠ home ∨
      draft.homeOf? facts.ledger alarm = some home ∧
        draft.copy? facts.ledger home alarm = none) := by
  rcases applyFeedback_cases plain sound feedback with
    unchanged | ⟨situation, known, named, ⟨positive, changed⟩ | ⟨found, _, same, changed⟩⟩
  · rw [unchanged] at lifted belongs hidden
    exact ⟨lifted, .inr ⟨belongs, hidden⟩⟩
  · obtain ⟨_, copies, _⟩ := applyFalsePositive_spec plain sound known feedback.alarm
    rw [changed, (exclusions_applyFalsePositive ..).2] at lifted
    rw [changed] at belongs
    rw [changed, copies] at hidden
    obtain ⟨kept, lifted⟩ := ExtTreeSet.mem_erase.mp lifted
    refine ⟨lifted, ?_⟩
    by_cases ousted : situation.id = home ∧ feedback.alarm = alarm
    · obtain ⟨rfl, rfl⟩ := ousted
      refine .inl ⟨⟨positive, named.symm, rfl⟩, fun same => kept ?_⟩
      rw [same]
      exact compare_self
    rw [if_neg ousted] at hidden
    exact .inr ⟨homeOf?_of_applyFalsePositive plain sound known belongs ousted, hidden⟩
  · obtain ⟨_, copies, homes⟩ := applyFalseNegative_spec plain sound known found
    rw [changed, (exclusions_applyFalseNegative ..).2] at lifted
    rw [changed, homes] at belongs
    rw [changed, copies] at hidden
    split at belongs
    · rename_i equal
      rw [if_pos equal, if_pos (Option.some.inj belongs)] at hidden
      contradiction
    · rename_i different
      rw [if_neg different] at hidden
      refine ⟨?_, .inr ⟨belongs, hidden⟩⟩
      rcases ExtTreeSet.mem_insert.mp lifted with equal | before
      · rw [LawfulEqOrd.compare_eq_iff_eq] at equal
        exact absurd (Exclusion.mk.inj equal).2 different
      · exact before

/-- What feedback has let into one situation and leaves hidden from another, where it belongs, has
been let in first and hidden later. -/
theorem exists_lets_ousts (unlifted : ⟨target, alarm⟩ ∉ draft.inclusions) {items : List Feedback}
    (lifted : ⟨target, alarm⟩ ∈ (applyItems facts draft items).inclusions)
    (belongs : (applyItems facts draft items).homeOf? facts.ledger alarm = some home)
    (hidden : (applyItems facts draft items).copy? facts.ledger home alarm = none) :
    ∃ earlier lets between ousts later, items = earlier ++ lets :: (between ++ ousts :: later) ∧
      Lets lets target alarm ∧ Ousts ousts home alarm ∧ target ≠ home := by
  induction items using List.reverseRecOn with
  | nil => exact absurd lifted unlifted
  | append_singleton items last ih =>
    have step : applyItems facts draft (items ++ [last]) =
        (applyFeedback facts (applyItems facts draft items) last).1 := by
      rw [applyItems, List.foldl_append]
      rfl
    rw [step] at lifted belongs hidden
    obtain ⟨before, ousts | ⟨belonged, hid⟩⟩ :=
      applyFeedback_hides (applyItems_plain plain sound) sound lifted belongs hidden
    · obtain ⟨lets, member, roles⟩ : ∃ lets ∈ items, Lets lets target alarm := by
        by_contra none
        exact applyItems_inclusions plain sound (fun feedback member negative here there =>
          none ⟨feedback, member, negative, here, there⟩) unlifted before
      obtain ⟨earlier, between, rfl⟩ := List.append_of_mem member
      exact ⟨earlier, lets, between, last, [], by simp, roles, ousts⟩
    · obtain ⟨earlier, lets, between, ousts, later, rfl, roles⟩ := ih before belonged hid
      exact ⟨earlier, lets, between, ousts, later ++ [last], by simp, roles⟩

end Overtaking
end Rule

namespace Policy

variable {facts : Facts} {now : Int} {ids : IdSource} {after : Ledger}

/-- Feedback leaves every hidden alarm accounted for. -/
theorem correctedDraft_accounts (sound : facts.Sound) (accounts : facts.ledger.AccountsForHidden)
    (now : Int) : (correctedDraft facts now).AccountsForHidden facts.ledger := by
  obtain ⟨situations, homes, absorbed, inclusions⟩ := Rule.runCollection_views facts (.new now)
  rw [correctedDraft, Rule.runFeedback_eq]
  refine Rule.applyItems_accounts (collected_plain sound now) sound (fun id alarm belongs => ?_) _
  rw [Draft.homeOf?_congr homes absorbed, Draft.homeOf?_new] at belongs
  rw [Draft.isExcluded_iff, inclusions, Draft.copy?, situations, absorbed]
  change (Draft.copy? (.new now) facts.ledger id alarm).isSome ∨ _
  rw [Draft.copy?_new, ← Ledger.shows_iff]
  refine (accounts id alarm belongs).imp_right fun excluded => ⟨?_, .inr excluded⟩
  simp [Draft.new]

/-- Whether an alarm that feedback leaves hidden from its situation comes to belong to a situation
that feedback has let it into. -/
def Forgets (facts : Facts) (now : Int) (ids : IdSource) : Prop :=
  ∃ home alarm : String, (correctedDraft facts now).homeOf? facts.ledger alarm = some home ∧
    (correctedDraft facts now).copy? facts.ledger home alarm = none ∧
    ⟨(finalDraft facts now ids).resolve home, alarm⟩ ∈ (correctedDraft facts now).inclusions

/-- A commit accounts for every hidden alarm just when none is forgotten. -/
theorem accountsForHidden_iff (sound : facts.Sound) (fresh : DrawsFresh facts now ids)
    (accounts : facts.ledger.AccountsForHidden)
    (committed : facts.ledger.Committed (finalDraft facts now ids) after) :
    after.AccountsForHidden ↔ ¬ Forgets facts now ids := by
  have plain := correctedDraft_plain sound now
  have coherent := finalDraft_coherent sound fresh
  have continues := finalDraft_continues sound fresh
  constructor
  · rintro accounted ⟨home, alarm, belongs, hidden, lifted⟩
    have moved := (committed.home_eq alarm).trans (continues.home_eq belongs)
    rcases accounted _ alarm moved with appears | excluded
    · rcases (shows_committed_iff sound fresh committed _ alarm).mp appears with
        ⟨other, shown, _⟩ | ⟨homeless, _⟩
      · rw [plain.coherent.home_of_shown shown] at belongs
        obtain rfl := Option.some.inj belongs
        rw [hidden] at shown
        contradiction
      · rw [homeless] at belongs
        contradiction
    · exact ((excluded_committed_iff sound fresh committed _ alarm).mp excluded).2.1 lifted
  · intro remembers id alarm belongs
    have there := (committed.coherent_after coherent sound.coherent).home_known belongs
    rw [committed.home_eq] at belongs
    rw [shows_committed_iff sound fresh committed, excluded_committed_iff sound fresh committed]
    cases before : (correctedDraft facts now).homeOf? facts.ledger alarm with
    | none => exact .inl (.inr ⟨rfl, belongs⟩)
    | some home =>
      have moved := continues.home_eq before
      rw [belongs] at moved
      obtain rfl := Option.some.inj moved
      rcases correctedDraft_accounts sound accounts now home alarm before with shown | excluded
      · exact .inl (.inl ⟨home, shown, rfl⟩)
      by_cases hidden : (correctedDraft facts now).copy? facts.ledger home alarm = none
      · refine .inr ⟨there, fun lifted => remembers ⟨home, alarm, before, hidden, lifted⟩, home, ?_⟩
        exact ⟨(Draft.isExcluded_iff.mp excluded).2.symm, rfl⟩
      · exact .inl (.inl ⟨home, Option.isSome_iff_ne_none.mpr hidden, rfl⟩)

/-- What is forgotten has been let into the situation that absorbs its own, and hidden later. -/
theorem Forgets.exists_lets_ousts (sound : facts.Sound) (forgets : Forgets facts now ids) :
    ∃ earlier lets between ousts later alarm home,
      facts.feedback = earlier ++ lets :: (between ++ ousts :: later) ∧
      Rule.Lets lets ((finalDraft facts now ids).resolve home) alarm ∧
      Rule.Ousts ousts home alarm ∧ (finalDraft facts now ids).resolve home ≠ home := by
  obtain ⟨home, alarm, belongs, hidden, lifted⟩ := forgets
  rw [correctedDraft, Rule.runFeedback_eq] at belongs hidden lifted
  have unlifted : (⟨(finalDraft facts now ids).resolve home, alarm⟩ : Exclusion) ∉
      (Rule.runCollection facts (.new now)).1.inclusions := by
    rw [(Rule.runCollection_views facts (.new now)).2.2.2]
    simp [Draft.new]
  obtain ⟨earlier, lets, between, ousts, later, pending, roles⟩ :=
    Rule.exists_lets_ousts (collected_plain sound now) sound unlifted lifted belongs hidden
  exact ⟨earlier, lets, between, ousts, later, alarm, home, pending, roles⟩

end Policy
end FaultCorrelation
