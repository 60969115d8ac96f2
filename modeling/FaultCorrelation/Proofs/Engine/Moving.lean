import FaultCorrelation.Proofs.Engine.Correlation
import FaultCorrelation.Proofs.Engine.Hiding
import FaultCorrelation.Proofs.Policy.Moving

/-! # False negatives along a run

Rules may come in any order. Along a run every false negative takes its alarm out of all other
situations, as long as none is about an alarm for which a situation has been started in the same
tick. Where feedback comes before new situations, there is no such one.
-/

namespace FaultCorrelation.Engine

variable {W : Type} [Weight W] {parameters : Parameters W} {engine : Engine W} {now : Int}

/-- Whether all false negatives that a tick heeds move their alarms. -/
def Moves (engine : Engine W) (now : Int) : Prop :=
  ∀ facts, engine.state.tickFacts? engine.parameters now = some facts →
    Policy.Moves engine.parameters.rules facts now engine.ids

/-- Whether a false negative that a tick heeds is about an alarm of a situation that the tick has
begun before. -/
def FindsBegun (engine : Engine W) (now : Int) : Prop :=
  ∃ facts, engine.state.tickFacts? engine.parameters now = some facts ∧
    Policy.FindsBegun engine.parameters.rules facts now engine.ids

section Tick

variable (sturdy : engine.state.Sturdy) (coherent : engine.state.ledger.Coherent)
  (fresh : engine.DrawsFresh now)
include sturdy coherent fresh

theorem tick_moves_iff : engine.Moves now ↔ ¬ engine.FindsBegun now := by
  have each {facts : Facts} (found : engine.state.tickFacts? engine.parameters now = some facts) :
      Policy.Moves engine.parameters.rules facts now engine.ids ↔
        ¬ Policy.FindsBegun engine.parameters.rules facts now engine.ids :=
    Policy.moves_iff ((EngineState.tick_of_some engine.ids found).sound coherent)
      (apart_of_tickFacts sturdy found) (evaluate_fresh fresh found)
  constructor
  · rintro moves ⟨facts, found, begun⟩
    exact (each found).mp (moves facts found) begun
  · exact fun none facts found => (each found).mpr fun begun => none ⟨facts, found, begun⟩

/-- The ledger stays coherent, whatever the rules, unless a false negative finds an alarm in a
situation that has been begun. -/
theorem tick_coherent (spared : ¬ engine.FindsBegun now) :
    (engine.tick now).1.state.ledger.Coherent := by
  rw [(tick_eq engine now).2.1]
  cases found : engine.state.tickFacts? engine.parameters now with
  | none =>
    rw [(EngineState.tick_of_none _ found).1]
    exact coherent
  | some facts =>
    have correlates := EngineState.tick_of_some engine.ids found
    have tidy := Policy.evaluate_tidy (correlates.sound coherent) (apart_of_tickFacts sturdy found)
      (evaluate_fresh fresh found)
      (fun feedback draft lets _ begun => spared ⟨facts, found, feedback, draft, lets, begun⟩)
      (List.prefix_refl _)
    obtain ⟨graph, cache, committed⟩ := correlates.committed
    have drafted : (engine.state.tickDraft engine.parameters engine.ids now).Coherent
        engine.state.ledger := by
      rw [EngineState.tickDraft, found, ← correlates.ledger_eq]
      exact tidy.coherent
    rw [committed]
    exact (Ledger.commit_committed coherent drafted graph cache).coherent_after drafted coherent

end Tick

/-- Along a run every false negative moves its alarm, whatever the rules and their order, just as
long as none is about an alarm for which the same tick has started a situation. That does not happen
where feedback comes before new situations. -/
theorem false_negatives_move_iff (parameters : Parameters W) (tickResolution : Int)
    (instanceName : String) (ids : IdSource) {calls : List (Call W)}
    (admitted : (startWith parameters tickResolution instanceName ids).AdmitsAll calls) :
    let engine := startWith parameters tickResolution instanceName ids
    ((∀ done now, done ++ [.tick now] <+: calls → (engine.performAll done).Moves now) ↔
      ∀ done now, done ++ [.tick now] <+: calls → ¬ (engine.performAll done).FindsBegun now) ∧
    ((∀ before after, parameters.rules = before ++ .feedback :: after → .newSituation ∉ before) →
      ∀ done now, done ++ [.tick now] <+: calls → ¬ (engine.performAll done).FindsBegun now) := by
  intro engine
  have started : Reachable parameters engine := .start tickResolution instanceName ids
  have coherent (spared : ∀ done now, done ++ [.tick now] <+: calls →
      (engine.performAll done).state.ledger.Coherent → ¬ (engine.performAll done).FindsBegun now)
      {done : List (Call W)} (before : done <+: calls) :
      (engine.performAll done).state.ledger.Coherent := by
    refine started.holds_along admitted (fun engine => engine.state.ledger.Coherent) FindsBegun
      Ledger.coherent_empty (fun engine call reached admits coherent unbroken => ?_) spared before
    cases call with
    | tick now => exact tick_coherent reached.sturdy coherent admits (unbroken now rfl)
    | _ =>
      exact (perform_quietly engine admits (by simp)).keeps (fun state => state.ledger.Coherent)
        (fun _ _ coherent step => step.ledger_coherent coherent) coherent
  have iff {done : List (Call W)} {now : Int} (next : done ++ [.tick now] <+: calls)
      (coherent : (engine.performAll done).state.ledger.Coherent) :
      (engine.performAll done).Moves now ↔ ¬ (engine.performAll done).FindsBegun now := by
    obtain ⟨reached, fresh⟩ := started.before admitted next
    exact tick_moves_iff reached.sturdy coherent fresh
  refine ⟨⟨fun moves done now next => ?_, fun spared done now next => ?_⟩,
    fun order done now next => ?_⟩
  · have along :=
      coherent (fun done now next coherent => (iff next coherent).mp (moves done now next))
        ((List.prefix_append done _).trans next)
    exact (iff next along).mp (moves done now next)
  · have along := coherent (fun done now next _ => spared done now next)
      ((List.prefix_append done _).trans next)
    exact (iff next along).mpr (spared done now next)
  · rintro ⟨facts, found, begun⟩
    obtain ⟨reached, _⟩ := started.before admitted next
    have housed : facts.ledger.Housed :=
      (EngineState.tick_of_some (engine.performAll done).ids found).ledger_eq ▸
        reached.sturdy.housed
    exact Policy.not_findsBegun_of_order housed (reached.parameters_eq ▸ order) begun

/-- The small network with a policy that starts situations before it hears feedback. -/
def startingFirst : Parameters Nat :=
  { Parameters.whole with rules := [.newSituation, .feedback] }

/-- An alarm that belongs nowhere is let into a situation, in the tick that starts one for it. -/
def doublingCalls : List (Call Nat) :=
  [.init { alarms := [nodeAlarm "a"], situations := [nodeSituation "s" 0 []] },
    .submit [.feedback (feedbackOn "s" "a" .falseNegative)],
    .tick 0]

theorem doublingCalls_admitted :
    (startWith startingFirst 1000 "node" .counting).AdmitsAll doublingCalls := by
  refine ⟨by simp [Admits, nodeSituation_keyed], trivial, fun n lower upper => ?_, trivial⟩
  have drawn : ((startWith startingFirst 1000 "node" .counting).performAll
      doublingCalls).ids.next = 2 := by decide +kernel
  change n < ((startWith startingFirst 1000 "node" .counting).performAll
    doublingCalls).ids.next at upper
  have first : 1 ≤ n := lower
  obtain rfl : n = 1 := by omega
  decide +kernel

/-- The engine before the tick. -/
def doublingEngine : Engine Nat :=
  (startWith startingFirst 1000 "node" .counting).performAll (doublingCalls.take 2)

theorem doublingEngine_correlates :
    (doublingEngine.state.tickFacts? doublingEngine.parameters 0).isSome := by
  decide +kernel

/-- The facts of the tick. -/
def doublingFacts : Facts :=
  (doublingEngine.state.tickFacts? doublingEngine.parameters 0).get doublingEngine_correlates

/-- The draft that the false negative finds. -/
def doublingDraft : Draft :=
  (Policy.evaluate [.newSituation] doublingFacts
    { draft := .new 0, ids := doublingEngine.ids }).1.draft

theorem doublingDraft_letsIn : Policy.LetsIn startingFirst.rules doublingFacts 0 doublingEngine.ids
    (feedbackOn "s" "a" .falseNegative) doublingDraft := by
  refine ⟨⟨[.newSituation], [], [], [], rfl, by decide +kernel, rfl⟩, rfl, by decide +kernel, ?_⟩
  exact .inr ⟨rfl, by decide +kernel⟩

theorem doublingEngine_not_moves : ¬ doublingEngine.Moves 0 := by
  intro moves
  have hosts := moves doublingFacts (Option.some_get _).symm _ doublingDraft doublingDraft_letsIn
  exact absurd (hosts.alone "00000000-0000-4000-8000-000000000001" (by decide +kernel))
    (by decide +kernel)

/-- The new situation goes on showing the alarm that the false negative moves, through the
commit. -/
theorem new_situation_keeps_moved_alarm :
    (startWith startingFirst 1000 "node" .counting).AdmitsAll doublingCalls ∧
      ¬ doublingEngine.Moves 0 ∧
      (doublingEngine.tick 0).1.state.ledger.Shows "s" "a" ∧
      (doublingEngine.tick 0).1.state.ledger.Shows "00000000-0000-4000-8000-000000000001" "a" :=
  ⟨doublingCalls_admitted, doublingEngine_not_moves, Ledger.shows_iff.mpr (by decide +kernel),
    Ledger.shows_iff.mpr (by decide +kernel)⟩

theorem false_negatives_move_iff_doubling :
    ∃ done now, done ++ [.tick now] <+: doublingCalls ∧
      ((startWith startingFirst 1000 "node" .counting).performAll done).FindsBegun now := by
  obtain ⟨moves, _⟩ :=
    false_negatives_move_iff startingFirst 1000 "node" .counting doublingCalls_admitted
  by_contra spared
  have moved := moves.mpr fun done now next begun => spared ⟨done, now, next, begun⟩
  exact doublingEngine_not_moves (moved (doublingCalls.take 2) 0 (List.prefix_refl _))

end FaultCorrelation.Engine
