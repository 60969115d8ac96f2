import Mathlib.Data.List.Induction
import FaultCorrelation.Proofs.Engine.Ticking

/-! # Exclusions along a run

An exclusion keeps an alarm out of a situation only as far as the alarm belongs to it already: the
merge rule does not look at exclusions. `Policy.Readmits` says when that lets an excluded alarm back
in. Apart from these ticks, exclusions are respected.
-/

namespace FaultCorrelation

open Std

/-- Whether no situation shows an alarm that is kept out of it. -/
def Ledger.RespectsExclusions (ledger : Ledger) : Prop :=
  ∀ id alarm : String, ⟨id, alarm⟩ ∈ ledger.exclusions → ¬ ledger.Shows id alarm

namespace Ledger.RespectsExclusions

variable {ledger : Ledger}

theorem empty : RespectsExclusions {} := by
  intro id alarm excluded
  simp at excluded

variable (respects : ledger.RespectsExclusions)
include respects

/-- No exclusion bears on a situation that was not there before. -/
theorem load (coherent : ledger.Coherent) (situation : Situation) :
    (ledger.load situation).1.RespectsExclusions := by
  obtain same | takes := ledger.load_cases situation
  · rw [same]
    exact respects
  rintro id alarm excluded ⟨shown, found, member⟩
  rw [takes.exclusions_eq] at excluded
  obtain ⟨rfl, _⟩ | ⟨_, found⟩ := takes.situations_cases found
  · exact takes.unknown (coherent.exclusion_known excluded)
  · exact respects id alarm excluded ⟨shown, found, member⟩

theorem loadAll (coherent : ledger.Coherent) {situations : List Situation}
    (keyed : ∀ situation ∈ situations, situation.alarms.IsKeyed) :
    (ledger.loadAll situations).1.RespectsExclusions := by
  rw [loadAll_eq]
  induction situations generalizing ledger with
  | nil => exact respects
  | cons first rest ih =>
    exact ih (respects.load coherent first) (coherent.load (keyed first (List.mem_cons_self ..)))
      fun situation member => keyed situation (List.mem_cons_of_mem _ member)

theorem delete (id : String) : (ledger.delete id).RespectsExclusions := by
  rintro other alarm excluded ⟨situation, found, member⟩
  refine respects other alarm (Collections.mem_filter.mp excluded).1 ⟨situation, ?_, member⟩
  rw [Ledger.delete, ExtTreeMap.getElem?_erase] at found
  split at found
  · contradiction
  · exact found

end Ledger.RespectsExclusions

namespace Policy

/-- Whether the rules behind feedback let in an alarm that a situation keeps out, by an exclusion in
the ledger or by one that feedback has just asked for. Once clusters are merged, the keeper may be
one with a situation that shows the alarm, or the alarm may have joined it because it belonged
nowhere. -/
def Readmits (facts : Facts) (now : Int) (ids : IdSource) : Prop :=
  ∃ keeper alarm : String,
    (⟨keeper, alarm⟩ ∈ facts.ledger.exclusions ∨
      ⟨keeper, alarm⟩ ∈ (correctedDraft facts now).exclusions) ∧
    ⟨(finalDraft facts now ids).resolve keeper, alarm⟩ ∉ (correctedDraft facts now).inclusions ∧
    ((∃ other, ((correctedDraft facts now).copy? facts.ledger other alarm).isSome ∧
        (finalDraft facts now ids).resolve other = (finalDraft facts now ids).resolve keeper) ∨
      (correctedDraft facts now).homeOf? facts.ledger alarm = none ∧
        (finalDraft facts now ids).homeOf? facts.ledger alarm =
          some ((finalDraft facts now ids).resolve keeper))

/-- A commit respects exclusions just when no alarm has been readmitted. -/
theorem respectsExclusions_iff {facts : Facts} {now : Int} {ids : IdSource} (sound : facts.Sound)
    (fresh : DrawsFresh facts now ids) {after : Ledger}
    (committed : facts.ledger.Committed (finalDraft facts now ids) after) :
    after.RespectsExclusions ↔ ¬ Readmits facts now ids := by
  have shows := shows_committed_iff sound fresh committed
  have excluded := excluded_committed_iff sound fresh committed
  constructor
  · rintro respects ⟨keeper, alarm, kept, lifted, back⟩
    have shown := (shows _ alarm).mpr back
    obtain ⟨situation, found, _⟩ := shown
    exact respects _ alarm ((excluded _ alarm).mpr
      ⟨Collections.mem_of_getElem? found, lifted, keeper, kept, rfl⟩) ((shows _ alarm).mpr back)
  · rintro barred id alarm member shown
    obtain ⟨_, lifted, keeper, kept, rfl⟩ := (excluded id alarm).mp member
    exact barred ⟨keeper, alarm, kept, lifted, (shows _ alarm).mp shown⟩

end Policy

namespace Engine

open EngineState (Quiet)

variable {W : Type} [Weight W] {parameters : Parameters W} {engine : Engine W} {now : Int}

/-- Whether a tick lets an excluded alarm back in. -/
def Readmits (engine : Engine W) (now : Int) : Prop :=
  ∃ facts, engine.state.tickFacts? engine.parameters now = some facts ∧
    Policy.Readmits facts now engine.ids

/-- After a tick exclusions are respected just when it has not readmitted an alarm. -/
theorem tick_respectsExclusions_iff (default : engine.parameters.rules = Rule.defaultOrder)
    (coherent : engine.state.ledger.Coherent) (fresh : engine.DrawsFresh now)
    (respects : engine.state.ledger.RespectsExclusions) :
    (engine.tick now).1.state.ledger.RespectsExclusions ↔ ¬ engine.Readmits now := by
  obtain ⟨_, committed⟩ := tick_committed default coherent fresh
  cases found : engine.state.tickFacts? engine.parameters now with
  | none =>
    rw [(tick_eq engine now).2.1, (EngineState.tick_of_none _ found).1]
    refine iff_of_true respects ?_
    rintro ⟨facts, present, _⟩
    rw [found] at present
    contradiction
  | some facts =>
    have correlates := EngineState.tick_of_some engine.ids found
    rw [tickDraft_of_some default found, ← correlates.ledger_eq] at committed
    rw [Policy.respectsExclusions_iff (correlates.sound coherent)
      (drawsFresh_facts default found fresh) committed, Readmits, found]
    simp

/-- Calls other than ticks respect exclusions as far as they were respected. -/
theorem Quietly.respectsExclusions {next : Engine W} (quietly : Quietly engine next)
    (coherent : engine.state.ledger.Coherent) (respects : engine.state.ledger.RespectsExclusions) :
    next.state.ledger.RespectsExclusions := by
  refine (quietly.keeps (fun state =>
    state.ledger.Coherent ∧ state.ledger.RespectsExclusions) ?_ ⟨coherent, respects⟩).2
  rintro state next ⟨coherent, respects⟩ step
  refine ⟨step.ledger_coherent coherent, ?_⟩
  rcases step.ledger_cases with
    ⟨same, _⟩ | ⟨situations, keyed, same, _⟩ | ⟨id, same, _⟩ | ⟨same, _⟩ <;> rw [same]
  · exact respects
  · exact respects.loadAll coherent keyed
  · exact respects.delete id
  · exact .empty

/-- A tick keeps the exclusions of situations that are still there, but for those that its feedback
lifts. -/
theorem tick_keeps_exclusion (default : engine.parameters.rules = Rule.defaultOrder)
    (coherent : engine.state.ledger.Coherent) (fresh : engine.DrawsFresh now) {id alarm : String}
    (excluded : ⟨id, alarm⟩ ∈ engine.state.ledger.exclusions)
    (kept : ∀ feedback ∈ engine.state.pendingFeedback, feedback.verdict = .falseNegative →
      feedback.situation = id → feedback.alarm ≠ alarm)
    (remains : id ∈ (engine.tick now).1.state.ledger.situations) :
    ⟨id, alarm⟩ ∈ (engine.tick now).1.state.ledger.exclusions := by
  obtain ⟨drafted, committed⟩ := tick_committed default coherent fresh
  cases found : engine.state.tickFacts? engine.parameters now with
  | none =>
    rw [(tick_eq engine now).2.1, (EngineState.tick_of_none _ found).1]
    exact excluded
  | some facts =>
    have correlates := EngineState.tick_of_some engine.ids found
    have sound := correlates.sound coherent
    rw [← correlates.feedback_eq] at kept
    have live := (Draft.hasSituation_iff.mp ((committed.mem_situations_iff drafted).mp remains)).1
    refine (committed.mem_exclusions id alarm).mpr
      ⟨remains, ?_, .inr ⟨id, excluded, Draft.resolve_of_not_mem live⟩⟩
    rw [tickDraft_of_some default found,
      (Policy.finalDraft_continues sound (drawsFresh_facts default found fresh)).inclusions_eq]
    exact Policy.correctedDraft_inclusions sound now kept

/-- A tick enters the exclusion that a false positive asks for, unless a later false negative takes
it back. -/
theorem tick_enters_exclusion (default : engine.parameters.rules = Rule.defaultOrder)
    (coherent : engine.state.ledger.Coherent) (fresh : engine.DrawsFresh now) {facts : Facts}
    (found : engine.state.tickFacts? engine.parameters now = some facts)
    {earlier later : List Feedback} {feedback : Feedback}
    (pending : engine.state.pendingFeedback = earlier ++ feedback :: later)
    (positive : feedback.verdict = .falsePositive)
    (known : feedback.situation ∈ engine.state.ledger.situations)
    (kept : ∀ other ∈ later, other.verdict = .falseNegative →
      other.situation = feedback.situation → other.alarm ≠ feedback.alarm)
    (remains : feedback.situation ∈ (engine.tick now).1.state.ledger.situations) :
    ⟨feedback.situation, feedback.alarm⟩ ∈ (engine.tick now).1.state.ledger.exclusions := by
  obtain ⟨drafted, committed⟩ := tick_committed default coherent fresh
  have correlates := EngineState.tick_of_some engine.ids found
  have sound := correlates.sound coherent
  have live := (Draft.hasSituation_iff.mp ((committed.mem_situations_iff drafted).mp remains)).1
  have continues := Policy.finalDraft_continues sound (drawsFresh_facts default found fresh)
  rw [← correlates.feedback_eq] at pending
  rw [← correlates.ledger_eq] at known
  obtain ⟨present, absent⟩ :=
    Policy.correctedDraft_falsePositive sound now pending positive known kept
  refine (committed.mem_exclusions _ _).mpr ⟨remains, ?_, .inl ?_⟩
  · rw [tickDraft_of_some default found, continues.inclusions_eq]
    exact absent
  · rw [tickDraft_of_some default found] at live ⊢
    exact (continues.mem_exclusions _ _).mpr ⟨_, present, Draft.resolve_of_not_mem live⟩

/-- Calls other than ticks keep the exclusions of situations that are still there. -/
theorem Quietly.keeps_exclusion {next : Engine W} (quietly : Quietly engine next)
    (reached : Reachable parameters engine) (coherent : engine.state.ledger.Coherent)
    {id alarm : String} (excluded : ⟨id, alarm⟩ ∈ engine.state.ledger.exclusions)
    (remains : id ∈ next.state.ledger.situations) :
    ⟨id, alarm⟩ ∈ next.state.ledger.exclusions := by
  have loaded : engine.state.phase ≠ .uninitialized := by
    intro uninitialized
    have known := coherent.exclusion_known excluded
    rw [reached.situations_of_uninitialized uninitialized] at known
    simp at known
  -- A situation that has gone does not come back, as nothing is loaded any more.
  have kept := quietly.keeps (fun state => state.phase ≠ .uninitialized ∧
    (⟨id, alarm⟩ ∈ state.ledger.exclusions ∨ id ∉ state.ledger.situations)) ?_
    ⟨loaded, .inl excluded⟩
  · exact kept.2.resolve_right (not_not_intro remains)
  rintro state next ⟨loaded, present⟩ step
  rcases step.ledger_cases with
    ⟨same, phase⟩ | ⟨_, _, _, uninitialized, _⟩ | ⟨gone, same, phase⟩ | ⟨same, phase⟩
  · rw [same, phase]
    exact ⟨loaded, present⟩
  · exact absurd uninitialized loaded
  · rw [same, phase]
    refine ⟨loaded, ?_⟩
    by_cases equal : id = gone
    · exact .inr (by simp [Ledger.delete, equal])
    · refine present.imp (fun member => ?_) fun absent member => ?_
      · exact Collections.mem_filter.mpr ⟨member, by simpa using equal⟩
      · exact absent (ExtTreeMap.mem_erase.mp member).2
  · rw [same, phase]
    exact ⟨by decide, .inr (by simp)⟩

/-- Whether a call keeps the exclusions of situations that are still there after it, but for those
that the feedback of a tick lifts. -/
def KeepsExclusions (engine : Engine W) (call : Call W) : Prop :=
  ∀ id alarm : String, ⟨id, alarm⟩ ∈ engine.state.ledger.exclusions →
    id ∈ (engine.perform call).state.ledger.situations →
    (∀ now, call = .tick now → ∀ feedback ∈ engine.state.pendingFeedback,
      feedback.verdict = .falseNegative → feedback.situation = id → feedback.alarm ≠ alarm) →
    ⟨id, alarm⟩ ∈ (engine.perform call).state.ledger.exclusions

/-- Whether a tick that correlates enters the exclusions that false positives ask for, but for those
that a later false negative takes back. -/
def EntersExclusions (engine : Engine W) (now : Int) : Prop :=
  ∀ earlier feedback later, engine.state.pendingFeedback = earlier ++ feedback :: later →
    (engine.state.tickFacts? engine.parameters now).isSome →
    feedback.verdict = .falsePositive →
    (∀ other ∈ later, other.verdict = .falseNegative → other.situation = feedback.situation →
      other.alarm ≠ feedback.alarm) →
    feedback.situation ∈ engine.state.ledger.situations →
    feedback.situation ∈ (engine.tick now).1.state.ledger.situations →
    ⟨feedback.situation, feedback.alarm⟩ ∈ (engine.tick now).1.state.ledger.exclusions

theorem Reachable.keepsExclusions (reached : Reachable parameters engine)
    (default : parameters.rules = Rule.defaultOrder) {call : Call W}
    (admitted : engine.Admits call) : engine.KeepsExclusions call := by
  have coherent := reached.ledger_coherent default
  intro id alarm excluded remains kept
  cases call with
  | tick now =>
    exact tick_keeps_exclusion (reached.parameters_eq ▸ default) coherent admitted excluded
      (kept now rfl) remains
  | _ =>
    exact (perform_quietly engine admitted (by simp)).keeps_exclusion reached coherent excluded
      remains

/-- A call respects exclusions if they were respected, unless it is a tick that readmits one. -/
theorem Reachable.perform_respectsExclusions_iff (reached : Reachable parameters engine)
    (default : parameters.rules = Rule.defaultOrder) {call : Call W}
    (admitted : engine.Admits call) (respects : engine.state.ledger.RespectsExclusions) :
    (engine.perform call).state.ledger.RespectsExclusions ↔
      ∀ now, call = .tick now → ¬ engine.Readmits now := by
  have coherent := reached.ledger_coherent default
  cases call with
  | tick now =>
    rw [Engine.perform, tick_respectsExclusions_iff (reached.parameters_eq ▸ default) coherent
      admitted respects]
    simp
  | _ =>
    refine iff_of_true ?_ (by simp)
    exact (perform_quietly engine admitted (by simp)).respectsExclusions coherent respects

/-- Along a run exclusions are respected just as long as no tick readmits an excluded alarm. They
last until feedback lifts them or their situation goes. -/
theorem exclusions_respected_iff (default : parameters.rules = Rule.defaultOrder)
    (tickResolution : Int) (instanceName : String) (ids : IdSource) {calls : List (Call W)}
    (admitted : (startWith parameters tickResolution instanceName ids).AdmitsAll calls) :
    ((∀ done, done <+: calls →
        ((startWith parameters tickResolution instanceName ids).performAll
          done).state.ledger.RespectsExclusions) ↔
      ∀ done now, done ++ [.tick now] <+: calls →
        ¬ ((startWith parameters tickResolution instanceName ids).performAll done).Readmits now) ∧
    (∀ done call, done ++ [call] <+: calls →
      ((startWith parameters tickResolution instanceName ids).performAll done).KeepsExclusions
        call) ∧
    ∀ done now, done ++ [.tick now] <+: calls →
      ((startWith parameters tickResolution instanceName ids).performAll done).EntersExclusions
        now := by
  have started : Reachable parameters (startWith parameters tickResolution instanceName ids) :=
    .start tickResolution instanceName ids
  have along {done : List (Call W)} {call : Call W} (before : done ++ [call] <+: calls) :
      Reachable parameters
          ((startWith parameters tickResolution instanceName ids).performAll done) ∧
        ((startWith parameters tickResolution instanceName ids).performAll done).Admits call := by
    obtain ⟨rest, rfl⟩ := before
    rw [List.append_assoc, admitsAll_append] at admitted
    exact ⟨started.performAll admitted.1, admitted.2.1⟩
  have initially : (startWith parameters tickResolution instanceName
      ids).state.ledger.RespectsExclusions := .empty
  generalize startWith parameters tickResolution instanceName ids = engine
    at started along initially ⊢
  have last (done : List (Call W)) (call : Call W) :
      engine.performAll (done ++ [call]) = (engine.performAll done).perform call :=
    performAll_append engine done [call]
  refine ⟨⟨fun respected done now before => ?_, fun barred done before => ?_⟩,
    fun done call before => ?_, fun done now before => ?_⟩
  · obtain ⟨reached, admits⟩ := along before
    have respects := respected done ((List.prefix_append done _).trans before)
    have after := respected _ before
    rw [last] at after
    exact (reached.perform_respectsExclusions_iff default admits respects).mp after now rfl
  · induction done using List.reverseRecOn with
    | nil => exact initially
    | append_singleton done call ih =>
      obtain ⟨reached, admits⟩ := along before
      have respects := ih ((List.prefix_append done _).trans before)
      rw [last]
      refine (reached.perform_respectsExclusions_iff default admits respects).mpr ?_
      rintro now rfl
      exact barred done now before
  · obtain ⟨reached, admits⟩ := along before
    exact reached.keepsExclusions default admits
  · obtain ⟨reached, admits⟩ := along before
    intro earlier feedback later pending correlates positive kept known remains
    obtain ⟨facts, found⟩ := Option.isSome_iff_exists.mp correlates
    exact tick_enters_exclusion (reached.parameters_eq ▸ default)
      (reached.ledger_coherent default) admits found pending positive known kept remains

/-- The two situations of `mergingEngine` are loaded, and an alarm of the younger is kept out of the
older before the first tick merges them. -/
def mergingCalls : List (Call Nat) :=
  [.init { alarms := ["a", "b", "c"].map nodeAlarm,
           situations := [nodeSituation "s" 0 ["a"], nodeSituation "t" 1 ["b"]] },
    .submit [.feedback
      { situation := "s", alarm := "b", verdict := .falsePositive, time := 0
        user := none, reason := none }],
    .tick 0]

theorem mergingCalls_admitted :
    (startWith .whole 1000 "node" .counting).AdmitsAll mergingCalls := by
  refine ⟨by simp [Admits, nodeSituation_keyed], trivial, fun n lower upper => ?_, trivial⟩
  have drawn : ((startWith .whole 1000 "node" .counting).performAll mergingCalls).ids.next = 1 := by
    decide +kernel
  change n < ((startWith .whole 1000 "node" .counting).performAll mergingCalls).ids.next at upper
  have first : 1 ≤ n := lower
  omega

/-- The merge shows the alarm where it has been excluded. -/
theorem merging_breaks_exclusion :
    (startWith .whole 1000 "node" .counting).AdmitsAll mergingCalls ∧
      ⟨"s", "b"⟩ ∈ ((startWith .whole 1000 "node" .counting).performAll
        mergingCalls).state.ledger.exclusions ∧
      ((startWith .whole 1000 "node" .counting).performAll
        mergingCalls).state.ledger.Shows "s" "b" ∧
      ¬ ((startWith .whole 1000 "node" .counting).performAll
        mergingCalls).state.ledger.RespectsExclusions := by
  have excluded : ⟨"s", "b"⟩ ∈ ((startWith .whole 1000 "node" .counting).performAll
      mergingCalls).state.ledger.exclusions := by decide +kernel
  have shown : ((startWith .whole 1000 "node" .counting).performAll
      mergingCalls).state.ledger.Shows "s" "b" := Ledger.shows_iff.mpr (by decide +kernel)
  exact ⟨mergingCalls_admitted, excluded, shown, fun respects => respects "s" "b" excluded shown⟩

theorem exclusions_respected_iff_merging :
    ∃ done now, done ++ [.tick now] <+: mergingCalls ∧
      ((startWith .whole 1000 "node" .counting).performAll done).Readmits now := by
  obtain ⟨respected, _⟩ := exclusions_respected_iff rfl 1000 "node" .counting mergingCalls_admitted
  by_contra barred
  have respects := respected.mpr
    (fun done now before readmits => barred ⟨done, now, before, readmits⟩) _ (List.prefix_refl _)
  exact respects "s" "b" (by decide +kernel) (Ledger.shows_iff.mpr (by decide +kernel))

end Engine
end FaultCorrelation
