import FaultCorrelation.Proofs.Policy.Evaluation

/-! # The last word of feedback

Feedback on an alarm is heard in order, and the last item that is heeded has its way as long as
nothing is merged. Merging takes exclusions along to the situation that survives, but not what
feedback has let in, and shows alarms without asking for exclusions. `Policy.Overrules` says when
that goes against the last word on an alarm.
-/

namespace FaultCorrelation

open Std

/-- Whether two drafts say the same about an alarm. -/
structure Draft.Concurs (ledger : Ledger) (alarm : String) (draft other : Draft) : Prop where
  copies (id : String) : other.copy? ledger id alarm = draft.copy? ledger id alarm
  home : other.homeOf? ledger alarm = draft.homeOf? ledger alarm
  exclusions (id : String) : ⟨id, alarm⟩ ∈ other.exclusions ↔ ⟨id, alarm⟩ ∈ draft.exclusions
  inclusions (id : String) : ⟨id, alarm⟩ ∈ other.inclusions ↔ ⟨id, alarm⟩ ∈ draft.inclusions

namespace Draft.Concurs

variable {ledger : Ledger} {alarm : String} {draft other last : Draft}

theorem refl (draft : Draft) : Concurs ledger alarm draft draft :=
  ⟨fun _ => rfl, rfl, fun _ => Iff.rfl, fun _ => Iff.rfl⟩

theorem trans (first : Concurs ledger alarm draft other)
    (second : Concurs ledger alarm other last) :
    Concurs ledger alarm draft last where
  copies id := (second.copies id).trans (first.copies id)
  home := second.home.trans first.home
  exclusions id := (second.exclusions id).trans (first.exclusions id)
  inclusions id := (second.inclusions id).trans (first.inclusions id)

end Draft.Concurs

/-- What feedback asks for: that an alarm is shown in a situation, belongs to it and is not kept out
of it, or that it is kept out of it and not shown. -/
def Ledger.Honours (ledger : Ledger) (verdict : Verdict) (id alarm : String) : Prop :=
  if verdict = .falsePositive then ⟨id, alarm⟩ ∈ ledger.exclusions ∧ ¬ ledger.Shows id alarm
  else ledger.Shows id alarm ∧ ledger.homes[alarm]? = some id ∧ ⟨id, alarm⟩ ∉ ledger.exclusions

namespace Rule

variable {facts : Facts} {draft : Draft}

/-- Feedback that is not heeded, or is on another alarm, says nothing about an alarm. -/
theorem applyFeedback_concurs (plain : draft.Plain facts.ledger) (sound : facts.Sound)
    {feedback : Feedback} {alarm : String}
    (silent : feedback.alarm = alarm → ¬ Heeds facts draft feedback) :
    Draft.Concurs facts.ledger alarm draft (applyFeedback facts draft feedback).1 := by
  by_cases heeded : Heeds facts draft feedback
  · have different : feedback.alarm ≠ alarm := fun same => silent same heeded
    have apart (id other : String) : (⟨other, feedback.alarm⟩ : Exclusion) ≠ ⟨id, alarm⟩ :=
      fun same => different (Exclusion.mk.inj same).2
    obtain ⟨situation, known, _, ⟨_, changed⟩ | ⟨found, _, same, changed⟩⟩ :=
      heeded.carries sound (plain.resolve_eq _ ▸ heeded.1)
    · obtain ⟨_, copies, homes⟩ := applyFalsePositive_spec plain sound known feedback.alarm
      obtain ⟨exclusions, inclusions⟩ :=
        exclusions_applyFalsePositive facts draft situation situation.id feedback.alarm
      rw [changed]
      refine ⟨fun id => ?_, ?_, fun id => ?_, fun id => ?_⟩
      · rw [copies, if_neg fun both => different both.2]
      · rw [homes, if_neg different]
      · simp [exclusions, ExtTreeSet.mem_insert, apart]
      · simp [inclusions, ExtTreeSet.mem_erase, apart]
    · obtain ⟨_, copies, homes⟩ := applyFalseNegative_spec plain sound known found
      obtain ⟨exclusions, inclusions⟩ :=
        exclusions_applyFalseNegative facts draft situation situation.id found
      rw [changed]
      rw [← same] at different apart
      refine ⟨fun id => ?_, ?_, fun id => ?_, fun id => ?_⟩
      · rw [copies, if_neg different]
      · rw [homes, if_neg different]
      · simp [exclusions, ExtTreeSet.mem_erase, apart]
      · simp [inclusions, ExtTreeSet.mem_insert, apart]
  · rw [applyFeedback_of_not_heeds heeded (plain.resolve_eq _ ▸ id)]
    exact .refl draft

/-- Whether none of some items of feedback on an alarm is heeded when its turn comes. -/
def Silent (facts : Facts) (alarm : String) : Draft → List Feedback → Prop
  | _, [] => True
  | draft, first :: rest =>
    (first.alarm = alarm → ¬ Heeds facts draft first) ∧
      Silent facts alarm (applyFeedback facts draft first).1 rest

theorem applyItems_concurs (plain : draft.Plain facts.ledger) (sound : facts.Sound)
    {items : List Feedback} {alarm : String} (silent : Silent facts alarm draft items) :
    Draft.Concurs facts.ledger alarm draft (applyItems facts draft items) := by
  induction items generalizing draft with
  | nil => exact .refl draft
  | cons first rest ih =>
    exact (applyFeedback_concurs plain sound silent.1).trans
      (ih (applyFeedback_plain plain sound first) silent.2)

/-- What feedback comes to for an alarm if an item of it has the last word. -/
structure Settles (facts : Facts) (feedback : Feedback) (draft : Draft) : Prop where
  positive : feedback.verdict = .falsePositive →
    draft.copy? facts.ledger feedback.situation feedback.alarm = none ∧
    (draft.homeOf? facts.ledger feedback.alarm).isSome ∧
    ⟨feedback.situation, feedback.alarm⟩ ∈ draft.exclusions ∧
    ⟨feedback.situation, feedback.alarm⟩ ∉ draft.inclusions
  negative : feedback.verdict = .falseNegative →
    (draft.copy? facts.ledger feedback.situation feedback.alarm).isSome ∧
    draft.homeOf? facts.ledger feedback.alarm = some feedback.situation ∧
    ⟨feedback.situation, feedback.alarm⟩ ∈ draft.inclusions

theorem applyFeedback_settles (plain : draft.Plain facts.ledger) (sound : facts.Sound)
    {feedback : Feedback} (heeded : Heeds facts draft feedback) :
    Settles facts feedback (applyFeedback facts draft feedback).1 := by
  have carries := heeded.carries sound (plain.resolve_eq _ ▸ heeded.1)
  rw [Carries, plain.resolve_eq] at carries
  obtain ⟨situation, known, named, ⟨positive, changed⟩ | ⟨found, negative, same, changed⟩⟩ :=
    carries
  · obtain ⟨_, copies, homes⟩ := applyFalsePositive_spec plain sound known feedback.alarm
    obtain ⟨exclusions, inclusions⟩ :=
      exclusions_applyFalsePositive facts draft situation situation.id feedback.alarm
    rw [changed]
    refine ⟨fun _ => ?_, fun negative => ?_⟩
    · rw [← named, copies, homes, exclusions, inclusions]
      simp
    · rw [positive] at negative
      contradiction
  · obtain ⟨_, copies, homes⟩ := applyFalseNegative_spec plain sound known found
    obtain ⟨_, inclusions⟩ :=
      exclusions_applyFalseNegative facts draft situation situation.id found
    rw [changed]
    refine ⟨fun positive => ?_, fun _ => ?_⟩
    · rw [negative] at positive
      contradiction
    · rw [← named, ← same, copies, homes, inclusions]
      simp

theorem Settles.of_concurs {feedback : Feedback} {other : Draft}
    (settles : Settles facts feedback draft)
    (concurs : Draft.Concurs facts.ledger feedback.alarm draft other) :
    Settles facts feedback other := by
  refine ⟨fun positive => ?_, fun negative => ?_⟩
  · rw [concurs.copies, concurs.home, concurs.exclusions, concurs.inclusions]
    exact settles.positive positive
  · rw [concurs.copies, concurs.home, concurs.inclusions]
    exact settles.negative negative

end Rule

namespace Policy

variable {facts : Facts} {now : Int} {ids : IdSource} {feedback : Feedback}

/-- Whether an item of feedback is the last one on its alarm that is heeded. -/
def LastWord (facts : Facts) (now : Int) (feedback : Feedback) : Prop :=
  ∃ earlier later, facts.feedback = earlier ++ feedback :: later ∧
    let before := Rule.applyItems facts (Rule.runCollection facts (.new now)).1 earlier
    Rule.Heeds facts before feedback ∧
      Rule.Silent facts feedback.alarm (Rule.applyFeedback facts before feedback).1 later

theorem LastWord.known (last : LastWord facts now feedback) :
    feedback.situation ∈ facts.ledger.situations := by
  obtain ⟨_, _, _, heeded, _⟩ := last
  exact heeded.1

theorem LastWord.verdict_cases (last : LastWord facts now feedback) :
    feedback.verdict = .falsePositive ∨ feedback.verdict = .falseNegative := by
  obtain ⟨_, _, _, heeded, _⟩ := last
  exact heeded.2.imp_right And.left

/-- The last word on an alarm has its way until clusters are merged. -/
theorem LastWord.settles (sound : facts.Sound) (last : LastWord facts now feedback) :
    Rule.Settles facts feedback (correctedDraft facts now) := by
  obtain ⟨earlier, later, pending, heeded, silent⟩ := last
  have before : (Rule.applyItems facts (Rule.runCollection facts (.new now)).1 earlier).Plain
      facts.ledger := Rule.applyItems_plain (collected_plain sound now) sound
  have split : correctedDraft facts now = Rule.applyItems facts
      (Rule.applyFeedback facts (Rule.applyItems facts
        (Rule.runCollection facts (.new now)).1 earlier) feedback).1 later := by
    rw [correctedDraft, Rule.runFeedback_eq, pending, Rule.applyItems, List.foldl_append]
    rfl
  rw [split]
  exact (Rule.applyFeedback_settles before sound heeded).of_concurs
    (Rule.applyItems_concurs (Rule.applyFeedback_plain before sound feedback) sound silent)

/-- Whether the rules behind feedback go against an item of it. A false positive is lost if its
situation ends up in one that feedback has let the alarm into, or with one that shows the alarm. A
false negative is lost if its situation ends up in one that feedback has not let the alarm into,
with one that keeps the alarm out. -/
def Overrules (facts : Facts) (now : Int) (ids : IdSource) (feedback : Feedback) : Prop :=
  let resolve := (finalDraft facts now ids).resolve
  let lifted := ⟨resolve feedback.situation, feedback.alarm⟩ ∈ (correctedDraft facts now).inclusions
  if feedback.verdict = .falsePositive then
    lifted ∨ ∃ other, resolve other = resolve feedback.situation ∧
      ((correctedDraft facts now).copy? facts.ledger other feedback.alarm).isSome
  else
    ¬ lifted ∧ ∃ keeper, resolve keeper = resolve feedback.situation ∧
      (⟨keeper, feedback.alarm⟩ ∈ facts.ledger.exclusions ∨
        ⟨keeper, feedback.alarm⟩ ∈ (correctedDraft facts now).exclusions)

/-- Only a merge goes against the last word: its situation is absorbed, or another is absorbed into
it. -/
theorem Overrules.exists_absorbed (sound : facts.Sound) (last : LastWord facts now feedback)
    (overruled : Overrules facts now ids feedback) :
    ∃ absorbed, (finalDraft facts now ids).resolve absorbed =
        (finalDraft facts now ids).resolve feedback.situation ∧
      (finalDraft facts now ids).resolve absorbed ≠ absorbed := by
  have settled := last.settles sound
  by_cases moved : (finalDraft facts now ids).resolve feedback.situation = feedback.situation
  case neg => exact ⟨feedback.situation, rfl, moved⟩
  rw [Overrules, moved] at overruled
  rw [moved]
  rcases last.verdict_cases with positive | negative
  · rw [if_pos positive] at overruled
    obtain ⟨hidden, _, _, unlifted⟩ := settled.positive positive
    obtain ⟨other, same, shown⟩ := overruled.resolve_left unlifted
    refine ⟨other, same, fun stays => ?_⟩
    rw [← stays, same, hidden] at shown
    contradiction
  · rw [negative, if_neg (by decide)] at overruled
    exact absurd (settled.negative negative).2.2 overruled.1

section Committed

variable {after : Ledger} (sound : facts.Sound) (fresh : DrawsFresh facts now ids)
  (committed : facts.ledger.Committed (finalDraft facts now ids) after)
  (last : LastWord facts now feedback)
include sound fresh committed last

/-- The situation of the last word has ended up in one that is there. -/
private theorem LastWord.mem_situations :
    (finalDraft facts now ids).resolve feedback.situation ∈ after.situations := by
  have coherent := finalDraft_coherent sound fresh
  exact (committed.mem_situations_iff coherent).mpr (coherent.hasSituation_resolve last.known)

/-- A false negative with the last word is followed: the alarm goes with its situation. -/
theorem LastWord.shows (negative : feedback.verdict = .falseNegative) :
    after.Shows ((finalDraft facts now ids).resolve feedback.situation) feedback.alarm ∧
      after.homes[feedback.alarm]? =
        some ((finalDraft facts now ids).resolve feedback.situation) := by
  obtain ⟨shown, home, _⟩ := (last.settles sound).negative negative
  refine ⟨(shows_committed_iff sound fresh committed _ _).mpr (.inl ⟨_, shown, rfl⟩), ?_⟩
  rw [committed.home_eq]
  exact (finalDraft_continues sound fresh).home_eq home

/-- A commit honours the last word just when nothing behind feedback goes against it. -/
theorem LastWord.honours_iff :
    after.Honours feedback.verdict ((finalDraft facts now ids).resolve feedback.situation)
        feedback.alarm ↔ ¬ Overrules facts now ids feedback := by
  have there := last.mem_situations sound fresh committed
  have shows := shows_committed_iff sound fresh committed
    ((finalDraft facts now ids).resolve feedback.situation) feedback.alarm
  have excluded := excluded_committed_iff sound fresh committed
    ((finalDraft facts now ids).resolve feedback.situation) feedback.alarm
  rw [Ledger.Honours, Overrules]
  rcases last.verdict_cases with positive | negative
  · obtain ⟨_, home, kept, _⟩ := (last.settles sound).positive positive
    have belongs : (correctedDraft facts now).homeOf? facts.ledger feedback.alarm ≠ none :=
      Option.isSome_iff_ne_none.mp home
    rw [if_pos positive, if_pos positive, excluded, shows]
    simp only [there, belongs, true_and, false_and, or_false, not_or]
    refine and_congr ⟨fun both => both.1, fun unlifted => ⟨unlifted, _, .inr kept, rfl⟩⟩ ?_
    simp only [and_comm]
  · have negated : feedback.verdict ≠ .falsePositive := by
      rw [negative]
      decide
    rw [if_neg negated, if_neg negated, excluded]
    have shown := last.shows sound fresh committed negative
    simp only [shown, there, true_and, and_comm]

end Committed
end Policy
end FaultCorrelation
