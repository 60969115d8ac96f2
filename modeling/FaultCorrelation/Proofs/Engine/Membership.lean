import FaultCorrelation.Proofs.Engine.Ticking

/-! # Where alarms belong

With the default policy an alarm that a situation shows belongs to that situation and to no other,
and alarms belong to situations that are there. From one tick to the next nothing leaves a situation
silently: unless feedback says otherwise, what a situation shows goes on being shown by it or by the
situation it was absorbed into. The rules decide by what the draft of a tick answers; the commit
carries out just that.
-/

namespace FaultCorrelation.Engine

open Std

variable {W : Type} [Weight W] {parameters : Parameters W} {engine : Engine W}

/-- Alarms are shown where they belong, so at most once, and belong to situations in the ledger. -/
theorem Reachable.single_membership (reached : Reachable parameters engine)
    (default : parameters.rules = Rule.defaultOrder) :
    (∀ id alarm : String, engine.state.ledger.Shows id alarm →
      engine.state.ledger.homes[alarm]? = some id) ∧
    (∀ id other alarm : String, engine.state.ledger.Shows id alarm →
      engine.state.ledger.Shows other alarm → id = other) ∧
    ∀ id alarm : String, engine.state.ledger.homes[alarm]? = some id →
      ∃ situation, engine.state.ledger.situations[id]? = some situation ∧ situation.id = id := by
  have coherent := reached.ledger_coherent default
  refine ⟨fun id alarm => coherent.home_of_shown, fun id other alarm here there => ?_,
    fun id alarm belongs => ?_⟩
  · exact Option.some.inj ((coherent.home_of_shown here).symm.trans (coherent.home_of_shown there))
  · obtain ⟨situation, found⟩ := Collections.exists_getElem? (coherent.home_known belongs)
    exact ⟨situation, found, coherent.id_eq found⟩

theorem single_membership_merged :
    (mergingEngine.perform (.tick 0)).state.ledger.Shows "s" "b" ∧
      (mergingEngine.perform (.tick 0)).state.ledger.homes["b"]? = some "s" ∧
      ¬ (mergingEngine.perform (.tick 0)).state.ledger.Shows "t" "b" := by
  have reached : Reachable .whole (mergingEngine.perform (.tick 0)) :=
    mergingEngine_reachable.perform (.tick 0) mergingEngine_fresh
  obtain ⟨belongs, once, _⟩ := reached.single_membership rfl
  have shown : (mergingEngine.perform (.tick 0)).state.ledger.Shows "s" "b" :=
    Ledger.shows_iff.mpr (by decide +kernel)
  refine ⟨shown, belongs "s" "b" shown, fun twice => ?_⟩
  exact absurd (once "s" "t" "b" shown twice) (by decide)

/-- The situation that a tick absorbs a situation into, directly or by way of others; the situation
itself if it is not absorbed. -/
def heirOf (engine : Engine W) (now : Int) (id : String) : String :=
  (engine.tickDraft now).resolve id

/-- What feedback does not take out of a situation, or move, stays in it or in its heir. -/
theorem Reachable.nothing_leaves_silently (reached : Reachable parameters engine)
    (default : parameters.rules = Rule.defaultOrder) {now : Int} (fresh : engine.DrawsFresh now)
    (id alarm : String) :
    (engine.state.ledger.Shows id alarm →
      (∀ feedback ∈ engine.state.pendingFeedback,
        feedback.verdict = .falsePositive ∨ feedback.verdict = .falseNegative →
          feedback.alarm ≠ alarm) →
      (engine.tick now).1.state.ledger.Shows (engine.heirOf now id) alarm) ∧
    (engine.state.ledger.homes[alarm]? = some id →
      (∀ feedback ∈ engine.state.pendingFeedback, feedback.verdict = .falseNegative →
        feedback.alarm ≠ alarm) →
      (engine.tick now).1.state.ledger.homes[alarm]? = some (engine.heirOf now id)) ∧
    (engine.heirOf now id = id ∨
      id ∈ (engine.tickDraft now).absorbed ∧ id ∉ (engine.tick now).1.state.ledger.situations) := by
  have coherent := reached.ledger_coherent default
  rw [← reached.parameters_eq] at default
  obtain ⟨drafted, committed⟩ := tick_committed default coherent fresh
  refine ⟨fun shown spared => ?_, fun belongs kept => ?_, ?_⟩
  · rw [committed.shows_iff drafted, heirOf]
    rw [Ledger.shows_iff] at shown
    cases found : engine.state.tickFacts? engine.parameters now with
    | none =>
      rw [tickDraft_of_none found, Draft.resolve_new, Draft.copy?_new]
      exact shown
    | some facts =>
      have correlates := EngineState.tick_of_some engine.ids found
      have sound := correlates.sound coherent
      rw [← correlates.feedback_eq] at spared
      rw [tickDraft_of_some default found, ← correlates.ledger_eq]
      apply ((Policy.finalDraft_continues sound (drawsFresh_facts default found fresh)).shown_iff
        _ _).mpr
      refine .inl ⟨id, ?_, rfl⟩
      rw [Policy.correctedDraft_copy? sound now spared, correlates.ledger_eq]
      exact shown
  · rw [committed.home_eq, heirOf]
    cases found : engine.state.tickFacts? engine.parameters now with
    | none => rw [tickDraft_of_none found, Draft.resolve_new, Draft.homeOf?_new, belongs]
    | some facts =>
      have correlates := EngineState.tick_of_some engine.ids found
      have sound := correlates.sound coherent
      rw [← correlates.feedback_eq] at kept
      rw [← correlates.ledger_eq] at belongs
      rw [tickDraft_of_some default found, ← correlates.ledger_eq]
      exact (Policy.finalDraft_continues sound (drawsFresh_facts default found fresh)).home_eq
        (Policy.correctedDraft_homeOf? sound now kept belongs)
  · by_cases absorbed : id ∈ (engine.tickDraft now).absorbed
    · refine .inr ⟨absorbed, fun present => ?_⟩
      have there := (committed.mem_situations_iff drafted).mp present
      exact (Draft.hasSituation_iff.mp there).1 absorbed
    · exact .inl (Draft.resolve_of_not_mem absorbed)

theorem nothing_leaves_silently_merging :
    (mergingEngine.tick 0).1.state.ledger.Shows "s" "b" ∧
      (mergingEngine.tick 0).1.state.ledger.homes["b"]? = some "s" := by
  have heir : mergingEngine.heirOf 0 "t" = "s" := by decide +kernel
  obtain ⟨shown, belongs, _⟩ :=
    mergingEngine_reachable.nothing_leaves_silently rfl mergingEngine_fresh "t" "b"
  rw [heir] at shown belongs
  have before : mergingEngine.state.ledger.Shows "t" "b" :=
    Ledger.shows_iff.mpr (by decide +kernel)
  exact ⟨shown before (by decide +kernel), belongs (by decide +kernel) (by decide +kernel)⟩

/-- A commit carries out what the draft of a tick answers: alarms belong where they belonged in the
draft, and the situations in the ledger are those that the draft had. Answers of the draft are those
of followed redirections. -/
theorem Reachable.commit_realises_draft (reached : Reachable parameters engine)
    (default : parameters.rules = Rule.defaultOrder) {now : Int} (fresh : engine.DrawsFresh now)
    {facts : Facts} (correlated : engine.state.tickFacts? parameters now = some facts) :
    let ledger := engine.state.ledger
    let draft :=
      (Policy.evaluate parameters.rules facts { draft := .new now, ids := engine.ids }).1.draft
    (∀ (graph : Topology W) (cache : DistanceCache W),
      let after := ((ledger.commit draft graph).run cache).1.1
      (∀ alarm : String, after.homes[alarm]? = draft.homeOf? ledger alarm) ∧
      ∀ id : String, id ∈ after.situations ↔ draft.hasSituation ledger id) ∧
    (∃ (graph : Topology W) (cache : DistanceCache W),
      (engine.tick now).1.state.ledger = ((ledger.commit draft graph).run cache).1.1) ∧
    ∀ id : String, draft.resolve id ∉ draft.absorbed := by
  intro ledger draft
  have coherent : ledger.Coherent := reached.ledger_coherent default
  obtain rfl := reached.parameters_eq
  have evaluated : engine.tickDraft now = draft := by
    rw [tickDraft, EngineState.tickDraft, correlated]
  obtain ⟨drafted, _⟩ := tick_committed default coherent fresh
  rw [evaluated] at drafted
  refine ⟨fun graph cache => ?_, ?_, Draft.resolve_not_mem drafted.flat⟩
  · have committed := Ledger.commit_committed coherent drafted graph cache
    exact ⟨committed.home_eq, fun _ => committed.mem_situations_iff drafted⟩
  · obtain ⟨graph, cache, entered⟩ := (EngineState.tick_of_some engine.ids correlated).committed
    refine ⟨graph, cache, ?_⟩
    rw [(tick_eq engine now).2.1, entered]
    exact congrArg (fun draft => ((ledger.commit draft graph).run cache).1.1) evaluated

theorem commit_realises_draft_merging :
    (mergingEngine.tick 0).1.state.ledger.homes["b"]? = some "s" ∧
      "t" ∉ (mergingEngine.tick 0).1.state.ledger.situations := by
  obtain ⟨facts, correlated⟩ := Option.isSome_iff_exists.mp
    (show (mergingEngine.state.tickFacts? .whole 0).isSome by decide +kernel)
  obtain ⟨carried, ⟨graph, cache, entered⟩, _⟩ :=
    mergingEngine_reachable.commit_realises_draft rfl mergingEngine_fresh correlated
  have evaluated : (Policy.evaluate Parameters.whole.rules facts
      { draft := .new 0, ids := mergingEngine.ids }).1.draft = mergingEngine.tickDraft 0 := by
    rw [tickDraft_of_some rfl correlated]
    rfl
  rw [evaluated] at carried entered
  obtain ⟨homes, situations⟩ := carried graph cache
  rw [entered, homes, situations]
  decide +kernel

end FaultCorrelation.Engine
