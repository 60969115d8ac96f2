import FaultCorrelation.Proofs.Engine.Membership
import FaultCorrelation.Proofs.Policy.Hiding

/-! # Hidden alarms along a run

Along a run every alarm is shown by the situation it belongs to or kept out of it, as long as no
tick forgets why it has hidden an alarm. A tick does so when its feedback first lets an alarm into a
situation and later hides it from another one, and the first situation absorbs the second.
-/

namespace FaultCorrelation.Engine

variable {W : Type} [Weight W] {parameters : Parameters W} {engine : Engine W} {now : Int}

/-- Whether a tick forgets why it has hidden an alarm. -/
def Forgets (engine : Engine W) (now : Int) : Prop :=
  ∃ facts, engine.state.tickFacts? engine.parameters now = some facts ∧
    Policy.Forgets facts now engine.ids

/-- Whether the feedback that waits lets an alarm into one situation and later hides it from
another, which a tick absorbs into the first. -/
def Crosses (engine : Engine W) (now : Int) : Prop :=
  ∃ earlier lets between ousts later alarm home,
    engine.state.pendingFeedback = earlier ++ lets :: (between ++ ousts :: later) ∧
    Rule.Lets lets (engine.heirOf now home) alarm ∧ Rule.Ousts ousts home alarm ∧
    engine.heirOf now home ≠ home

/-- What a tick forgets, its feedback has let into the situation that absorbs the one it hides it
from later. -/
theorem Forgets.crosses (default : engine.parameters.rules = Rule.defaultOrder)
    (coherent : engine.state.ledger.Coherent) (forgets : engine.Forgets now) :
    engine.Crosses now := by
  obtain ⟨facts, found, forgets⟩ := forgets
  have correlates := EngineState.tick_of_some engine.ids found
  obtain ⟨earlier, lets, between, ousts, later, alarm, home, pending, roles⟩ :=
    forgets.exists_lets_ousts (correlates.sound coherent)
  rw [correlates.feedback_eq] at pending
  rw [← tickDraft_of_some default found] at roles
  exact ⟨earlier, lets, between, ousts, later, alarm, home, pending, roles⟩

/-- After a tick every hidden alarm is accounted for just when the tick has not forgotten one. -/
theorem tick_accountsForHidden_iff (default : engine.parameters.rules = Rule.defaultOrder)
    (coherent : engine.state.ledger.Coherent) (fresh : engine.DrawsFresh now)
    (accounts : engine.state.ledger.AccountsForHidden) :
    (engine.tick now).1.state.ledger.AccountsForHidden ↔ ¬ engine.Forgets now := by
  obtain ⟨_, committed⟩ := tick_committed default coherent fresh
  cases found : engine.state.tickFacts? engine.parameters now with
  | none =>
    rw [(tick_eq engine now).2.1, (EngineState.tick_of_none _ found).1]
    refine iff_of_true accounts ?_
    rintro ⟨facts, present, _⟩
    rw [found] at present
    contradiction
  | some facts =>
    have correlates := EngineState.tick_of_some engine.ids found
    rw [tickDraft_of_some default found, ← correlates.ledger_eq] at committed
    rw [← correlates.ledger_eq] at accounts
    rw [Policy.accountsForHidden_iff (correlates.sound coherent)
      (drawsFresh_facts default found fresh) accounts committed, Forgets, found]
    simp

/-- Calls other than ticks account for hidden alarms as far as they were accounted for. -/
theorem Quietly.accountsForHidden {next : Engine W} (quietly : Quietly engine next)
    (accounts : engine.state.ledger.AccountsForHidden) : next.state.ledger.AccountsForHidden := by
  refine quietly.keeps (fun state => state.ledger.AccountsForHidden) ?_ accounts
  rintro state next accounts step
  rcases step.ledger_cases with
    ⟨same, _⟩ | ⟨situations, _, same, _⟩ | ⟨id, same, _⟩ | ⟨same, _⟩ <;> rw [same]
  · exact accounts
  · exact accounts.loadAll situations
  · exact accounts.delete id
  · exact .empty

/-- A call keeps hidden alarms accounted for, unless it is a tick that forgets one. -/
theorem Reachable.perform_accountsForHidden_iff (reached : Reachable parameters engine)
    (default : parameters.rules = Rule.defaultOrder) {call : Call W}
    (admitted : engine.Admits call) (accounts : engine.state.ledger.AccountsForHidden) :
    (engine.perform call).state.ledger.AccountsForHidden ↔
      ∀ now, call = .tick now → ¬ engine.Forgets now := by
  cases call with
  | tick now =>
    rw [Engine.perform, tick_accountsForHidden_iff (reached.parameters_eq ▸ default)
      (reached.ledger_coherent default) admitted accounts]
    simp
  | _ =>
    refine iff_of_true ?_ (by simp)
    exact (perform_quietly engine admitted (by simp)).accountsForHidden accounts

/-- Along a run every alarm is shown by the situation it belongs to or kept out of it, just as long
as no tick forgets why it has hidden an alarm. A tick that does is one whose feedback lets an alarm
into a situation and later hides it from another one, which the first absorbs. -/
theorem hidden_accounted_iff (default : parameters.rules = Rule.defaultOrder)
    (tickResolution : Int) (instanceName : String) (ids : IdSource) {calls : List (Call W)}
    (admitted : (startWith parameters tickResolution instanceName ids).AdmitsAll calls) :
    let engine := startWith parameters tickResolution instanceName ids
    ((∀ done, done <+: calls → (engine.performAll done).state.ledger.AccountsForHidden) ↔
      ∀ done now, done ++ [.tick now] <+: calls → ¬ (engine.performAll done).Forgets now) ∧
    ∀ done now, done ++ [.tick now] <+: calls → (engine.performAll done).Forgets now →
      (engine.performAll done).Crosses now := by
  intro engine
  have started : Reachable parameters engine := .start tickResolution instanceName ids
  refine ⟨?_, fun done now next forgets => ?_⟩
  · exact started.holds_along_iff admitted (fun engine => engine.state.ledger.AccountsForHidden)
      Forgets .empty fun _ _ reached admits accounts =>
        reached.perform_accountsForHidden_iff default admits accounts
  · obtain ⟨reached, _⟩ := started.before admitted next
    exact forgets.crosses (reached.parameters_eq ▸ default) (reached.ledger_coherent default)

/-- Feedback on an alarm in a situation. -/
def feedbackOn (situation alarm : String) (verdict : Verdict) : Feedback :=
  { situation, alarm, verdict, time := 0, user := none, reason := none }

/-- Feedback lets an alarm of the younger situation into the older one, then back into the younger
one, and hides it there, before the first tick merges the two. -/
def forgettingCalls : List (Call Nat) :=
  [.init { alarms := ["a", "b", "c"].map nodeAlarm,
           situations := [nodeSituation "t" 0 ["b"], nodeSituation "s" 1 ["a"]] },
    .submit [.feedback (feedbackOn "t" "a" .falseNegative),
      .feedback (feedbackOn "s" "a" .falseNegative),
      .feedback (feedbackOn "s" "a" .falsePositive)],
    .tick 0]

theorem forgettingCalls_admitted :
    (startWith .whole 1000 "node" .counting).AdmitsAll forgettingCalls := by
  refine ⟨by simp [Admits, nodeSituation_keyed], trivial, fun n lower upper => ?_, trivial⟩
  have drawn : ((startWith .whole 1000 "node" .counting).performAll
      forgettingCalls).ids.next = 1 := by decide +kernel
  change n < ((startWith .whole 1000 "node" .counting).performAll
    forgettingCalls).ids.next at upper
  have first : 1 ≤ n := lower
  omega

/-- The ledger that these calls lead to. -/
def forgettingLedger : Ledger :=
  ((startWith .whole 1000 "node" .counting).performAll forgettingCalls).state.ledger

/-- The merge moves the hidden alarm, and nothing keeps it out any more. -/
theorem merging_forgets_exclusion :
    (startWith .whole 1000 "node" .counting).AdmitsAll forgettingCalls ∧
      forgettingLedger.homes["a"]? = some "t" ∧ forgettingLedger.copy? "t" "a" = none ∧
      ⟨"t", "a"⟩ ∉ forgettingLedger.exclusions ∧ ¬ forgettingLedger.AccountsForHidden := by
  have belongs : forgettingLedger.homes["a"]? = some "t" := by decide +kernel
  have hidden : forgettingLedger.copy? "t" "a" = none := by decide +kernel
  have forgotten : ⟨"t", "a"⟩ ∉ forgettingLedger.exclusions := by decide +kernel
  exact ⟨forgettingCalls_admitted, belongs, hidden, forgotten,
    fun accounts => forgotten (accounts.excluded belongs hidden)⟩

theorem hidden_accounted_iff_forgetting :
    ∃ done now, done ++ [.tick now] <+: forgettingCalls ∧
      ((startWith .whole 1000 "node" .counting).performAll done).Forgets now := by
  obtain ⟨accounted, _⟩ := hidden_accounted_iff rfl 1000 "node" .counting forgettingCalls_admitted
  by_contra barred
  have accounts := accounted.mpr
    (fun done now next forgets => barred ⟨done, now, next, forgets⟩) _ (List.prefix_refl _)
  have excluded : ⟨"t", "a"⟩ ∈ forgettingLedger.exclusions :=
    accounts.excluded (by decide +kernel) (by decide +kernel)
  exact absurd excluded (by decide +kernel)

end FaultCorrelation.Engine
