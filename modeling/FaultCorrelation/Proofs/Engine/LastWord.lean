import FaultCorrelation.Proofs.Engine.Hiding
import FaultCorrelation.Proofs.Policy.LastWord

/-! # The last word of feedback in a tick

A tick honours the last word of its feedback on an alarm, where the situation has ended up, unless a
merge goes against it. What a false negative lets in is shown and belongs there in any case, but it
may be kept out as well.
-/

namespace FaultCorrelation.Engine

variable {W : Type} [Weight W] {parameters : Parameters W} {engine : Engine W} {now : Int}
  {feedback : Feedback}

/-- Whether an item of feedback is the last one on its alarm that a tick heeds. -/
def LastWord (engine : Engine W) (now : Int) (feedback : Feedback) : Prop :=
  ∃ facts, engine.state.tickFacts? engine.parameters now = some facts ∧
    Policy.LastWord facts now feedback

/-- Whether a tick goes against an item of its feedback. -/
def Overrules (engine : Engine W) (now : Int) (feedback : Feedback) : Prop :=
  ∃ facts, engine.state.tickFacts? engine.parameters now = some facts ∧
    Policy.Overrules facts now engine.ids feedback

/-- A tick honours the last word on an alarm just when it does not overrule it, which takes a merge
that the situation has part in. A false negative shows the alarm in any case, and moves it. -/
theorem Reachable.last_word_honoured_iff (reached : Reachable parameters engine)
    (default : parameters.rules = Rule.defaultOrder) (fresh : engine.DrawsFresh now)
    (last : engine.LastWord now feedback) :
    let heir := engine.heirOf now feedback.situation
    let after := (engine.tick now).1.state.ledger
    (feedback.verdict = .falseNegative →
      after.Shows heir feedback.alarm ∧ after.homes[feedback.alarm]? = some heir) ∧
    (after.Honours feedback.verdict heir feedback.alarm ↔ ¬ engine.Overrules now feedback) ∧
    (engine.Overrules now feedback →
      ∃ absorbed, engine.heirOf now absorbed = heir ∧ heir ≠ absorbed) := by
  intro heir after
  have default : engine.parameters.rules = Rule.defaultOrder := reached.parameters_eq ▸ default
  have coherent : engine.state.ledger.Coherent :=
    reached.ledger_coherent (reached.parameters_eq ▸ default)
  obtain ⟨facts, found, last⟩ := last
  have correlates := EngineState.tick_of_some engine.ids found
  have sound := correlates.sound coherent
  have drawn := drawsFresh_facts default found fresh
  obtain ⟨_, committed⟩ := tick_committed default coherent fresh
  rw [tickDraft_of_some default found, ← correlates.ledger_eq] at committed
  have heir_eq : heir = (Policy.finalDraft facts now engine.ids).resolve feedback.situation := by
    rw [← tickDraft_of_some default found]
    rfl
  have overrules : engine.Overrules now feedback ↔
      Policy.Overrules facts now engine.ids feedback := by
    rw [Overrules, found]
    simp
  rw [overrules, heir_eq]
  refine ⟨last.shows sound drawn committed, last.honours_iff sound drawn committed,
    fun broken => ?_⟩
  obtain ⟨absorbed, same, moved⟩ := broken.exists_absorbed sound last
  refine ⟨absorbed, ?_, same ▸ moved⟩
  rw [heirOf, tickDraft_of_some default found, same]

/-- Feedback keeps an alarm of the younger situation out of the older one, and then confirms it in
the younger one, before the first tick merges the two. -/
def overrulingEngine : Engine Nat :=
  (nodeEngine ["a", "b", "c"] [nodeSituation "t" 0 ["b"], nodeSituation "s" 1 ["a"]]).perform
    (.submit [.feedback (feedbackOn "t" "a" .falsePositive),
      .feedback (feedbackOn "s" "a" .falseNegative)])

theorem overrulingEngine_reachable : Reachable .whole overrulingEngine :=
  (nodeEngine_reachable _ (by simp [nodeSituation_keyed])).perform (.submit _) trivial

theorem overrulingEngine_fresh : overrulingEngine.DrawsFresh 0 := by
  intro n lower upper
  have drawn : (overrulingEngine.tick 0).1.ids.next = overrulingEngine.ids.next := by
    decide +kernel
  omega

theorem overrulingEngine_correlates :
    (overrulingEngine.state.tickFacts? overrulingEngine.parameters 0).isSome := by
  decide +kernel

theorem overrulingEngine_lastWord :
    overrulingEngine.LastWord 0 (feedbackOn "s" "a" .falseNegative) := by
  refine ⟨_, (Option.some_get overrulingEngine_correlates).symm,
    [feedbackOn "t" "a" .falsePositive], [], ?_⟩
  exact ⟨by decide +kernel, ⟨by decide +kernel, .inr ⟨rfl, by decide +kernel⟩⟩, trivial⟩

/-- The merge brings the alarm into the older situation, which keeps it out nevertheless. -/
theorem merging_overrules_last_word :
    Reachable .whole overrulingEngine ∧ overrulingEngine.DrawsFresh 0 ∧
      overrulingEngine.LastWord 0 (feedbackOn "s" "a" .falseNegative) ∧
      overrulingEngine.heirOf 0 "s" = "t" ∧
      ⟨"t", "a"⟩ ∈ (overrulingEngine.tick 0).1.state.ledger.exclusions ∧
      ¬ (overrulingEngine.tick 0).1.state.ledger.Honours .falseNegative "t" "a" := by
  have excluded : ⟨"t", "a"⟩ ∈ (overrulingEngine.tick 0).1.state.ledger.exclusions := by
    decide +kernel
  refine ⟨overrulingEngine_reachable, overrulingEngine_fresh, overrulingEngine_lastWord,
    by decide +kernel, excluded, fun honoured => ?_⟩
  rw [Ledger.Honours, if_neg (by decide)] at honoured
  exact honoured.2.2 excluded

theorem last_word_honoured_iff_overruling :
    overrulingEngine.Overrules 0 (feedbackOn "s" "a" .falseNegative) ∧
      (overrulingEngine.tick 0).1.state.ledger.Shows "t" "a" := by
  have heir : overrulingEngine.heirOf 0 "s" = "t" := by decide +kernel
  have excluded : ⟨"t", "a"⟩ ∈ (overrulingEngine.tick 0).1.state.ledger.exclusions := by
    decide +kernel
  obtain ⟨shows, honoured, _⟩ := overrulingEngine_reachable.last_word_honoured_iff rfl
    overrulingEngine_fresh overrulingEngine_lastWord
  change _ → Ledger.Shows _ (overrulingEngine.heirOf 0 "s") "a" ∧ _ at shows
  change Ledger.Honours _ .falseNegative (overrulingEngine.heirOf 0 "s") "a" ↔ _ at honoured
  rw [heir] at shows honoured
  refine ⟨?_, (shows rfl).1⟩
  by_contra spared
  have kept := honoured.mpr spared
  rw [Ledger.Honours, if_neg (by decide)] at kept
  exact kept.2.2 excluded

end FaultCorrelation.Engine
