import FaultCorrelation.Proofs.Engine.Run
import FaultCorrelation.Proofs.Ledger.Commitment
import FaultCorrelation.Proofs.Policy.Evaluation

/-! # What a tick does to the ledger

A tick either comes to a correlation or leaves the ledger alone. `tickFacts?` are the facts that it
correlates and `tickDraft` is the draft that it commits. With the default policy every engine has a
coherent ledger.
-/

namespace FaultCorrelation

open Std

variable {W : Type} [Weight W]

namespace EngineState

/-- The facts that a tick correlates, if it comes to that. -/
def tickFacts? (parameters : Parameters W) (state : EngineState W) (now : Int) : Option Facts :=
  match state.checkTick now with
  | .error _ => none
  | .ok () =>
    let (begun, collected, _) := state.beginTick parameters now
    if begun.isIdle then none
    else
      match (begun.cluster parameters).1 with
      | .error _ => none
      | .ok clusters => some (begun.facts clusters collected begun.pendingFeedback)

/-- The draft that a tick commits. -/
def tickDraft (parameters : Parameters W) (state : EngineState W) (ids : IdSource) (now : Int) :
    Draft :=
  match state.tickFacts? parameters now with
  | none => .new now
  | some facts => (Policy.evaluate parameters.rules facts { draft := .new now, ids }).1.draft

variable {parameters : Parameters W} {state : EngineState W} {ids : IdSource} {now : Int}

omit [Weight W] in
/-- Garbage collection is about the topology. -/
theorem collectGarbage_frame (parameters : Parameters W) (now : Int) (state : EngineState W) :
    (state.collectGarbage parameters now).1.ledger = state.ledger ∧
      (state.collectGarbage parameters now).1.pendingFeedback = state.pendingFeedback ∧
      (state.collectGarbage parameters now).1.phase = state.phase := by
  rw [collectGarbage]
  generalize state.graph.activeAlarms.filter _ = expired
  generalize ([] : List Alarm) = collected
  induction expired generalizing state collected with
  | nil => exact ⟨rfl, rfl, rfl⟩
  | cons first rest ih =>
    have step : (state.collectAlarm collected first).1.ledger = state.ledger ∧
        (state.collectAlarm collected first).1.pendingFeedback = state.pendingFeedback ∧
        (state.collectAlarm collected first).1.phase = state.phase := by
      rw [collectAlarm]
      split <;> exact ⟨rfl, rfl, rfl⟩
    obtain ⟨ledger, feedback, phase⟩ :=
      ih (state.collectAlarm collected first).1 (state.collectAlarm collected first).2
    exact ⟨ledger.trans step.1, feedback.trans step.2.1, phase.trans step.2.2⟩

omit [Weight W] in
theorem beginTick_frame (parameters : Parameters W) (state : EngineState W) (now : Int) :
    (state.beginTick parameters now).1.ledger = state.ledger ∧
      (state.beginTick parameters now).1.pendingFeedback = state.pendingFeedback ∧
      (state.beginTick parameters now).1.phase = state.phase :=
  collectGarbage_frame parameters now
    { state with clock := now, graph := { state.graph with clock := now } }

/-- Clustering looks at the topology and the remembered distances only. -/
theorem cluster_withoutFeedback (parameters : Parameters W) (state : EngineState W) :
    { state with pendingFeedback := [] }.cluster parameters =
      ((state.cluster parameters).1,
        { (state.cluster parameters).2 with pendingFeedback := [] }) := by
  rw [cluster, cluster]
  rfl

/-- A correlation whose clustering fails. -/
theorem correlate_of_error (ids : IdSource) (summary : TickSummary) (collected : List Alarm)
    (feedback : List Feedback) {cause : Fault}
    (failed : (state.cluster parameters).1 = .error cause) :
    state.correlate parameters ids summary collected feedback =
      (.error cause, (state.cluster parameters).2, ids) := by
  unfold correlate
  generalize state.cluster parameters = clustered at failed ⊢
  obtain ⟨result, after⟩ := clustered
  simp only at failed
  subst failed
  rfl

/-- A correlation whose clustering succeeds commits what the policy comes to. -/
theorem correlate_of_ok (ids : IdSource) (summary : TickSummary) (collected : List Alarm)
    (feedback : List Feedback) {clusters : List Cluster}
    (clustered : (state.cluster parameters).1 = .ok clusters) :
    state.correlate parameters ids summary collected feedback =
      let evaluated := state.deliberate parameters ids summary.time clusters collected feedback
      let entered := (state.ledger.commit evaluated.1.draft state.graph).run
        (state.cluster parameters).2.distances
      let parts := (entered.1.2.map Situation.id).partition evaluated.1.draft.newIds.contains
      (.ok ({ summary with
          alarmsClustered := state.graph.alarmCount, clusters := clusters.length
          created := parts.1, updated := parts.2, failures := evaluated.2.failures },
          entered.1.2),
        { state with ledger := entered.1.1, distances := entered.2 }, evaluated.1.ids) := by
  have kept : state.cluster parameters =
      (.ok clusters, { state with distances := (state.cluster parameters).2.distances }) :=
    Prod.ext clustered rfl
  unfold correlate
  rw [kept]
  rfl

/-- Behind garbage collection a tick has nothing to look at, or it leaves what its correlation
leaves up to what waits for the next tick. -/
theorem finishTick_cases (parameters : Parameters W) (state : EngineState W) (ids : IdSource)
    (summary : TickSummary) (collected : List Alarm) :
    (state.finishTick parameters ids summary collected).2 = (state, ids) ∨
    ∃ pendingFeedback pendingCollected dirty,
      (state.finishTick parameters ids summary collected).2 =
        ({ ({ state with pendingFeedback := [] }.correlate parameters ids summary collected
              state.pendingFeedback).2.1 with pendingFeedback, pendingCollected, dirty },
          ({ state with pendingFeedback := [] }.correlate parameters ids summary collected
              state.pendingFeedback).2.2) := by
  rw [finishTick]
  by_cases idle : state.isIdle
  · rw [if_pos idle]
    exact .inl rfl
  · rw [if_neg idle]
    dsimp only
    generalize correlate parameters _ ids summary collected _ = correlated
    obtain ⟨_ | outcome, after, drawn⟩ := correlated
    · exact .inr ⟨_, _, _, rfl⟩
    · exact .inr ⟨_, _, _, rfl⟩

/-- A tick that is not refused answers as it finishes. -/
theorem tick_of_finished {ids drawn : IdSource} {begun after : EngineState W}
    {collected : List Alarm} {expired : Nat}
    {answer : Except Fault (TickSummary × List Situation)}
    (admitted : state.checkTick now = .ok ())
    (begins : state.beginTick parameters now = (begun, collected, expired))
    (finished : begun.finishTick parameters ids
      { time := now, garbageCollected := collected.length } collected = (answer, after, drawn)) :
    state.tick parameters ids now =
      (answer.map fun told => { summary := told.1, emitted := told.2, expired }, after, drawn) := by
  rw [tick, admitted]
  simp only [begins, finished]
  cases answer <;> rfl

/-- A tick that is refused changes nothing. Any other begins, and may correlate then. -/
theorem tick_cases (parameters : Parameters W) (state : EngineState W) (ids : IdSource)
    (now : Int) :
    (∃ cause, state.checkTick now = .error cause ∧
      state.tick parameters ids now = (.error cause, state, ids)) ∨
    state.checkTick now = .ok () ∧
      ((state.tick parameters ids now).2 = ((state.beginTick parameters now).1, ids) ∨
      ∃ (summary : TickSummary) (collected : List Alarm) (feedback : List Feedback)
        (correlated : Except Fault (TickSummary × List Situation) × EngineState W × IdSource),
        { (state.beginTick parameters now).1 with pendingFeedback := [] }.correlate parameters ids
          summary collected feedback = correlated ∧
        ∃ pendingFeedback pendingCollected dirty, (state.tick parameters ids now).2 =
          ({ correlated.2.1 with pendingFeedback, pendingCollected, dirty }, correlated.2.2)) := by
  cases checked : state.checkTick now with
  | error cause => exact .inl ⟨cause, rfl, by rw [tick, checked]⟩
  | ok granted =>
    refine .inr ⟨rfl, ?_⟩
    generalize begins : state.beginTick parameters now = result
    obtain ⟨begun, collected, expired⟩ := result
    rw [tick_of_finished checked begins rfl]
    rcases finishTick_cases parameters begun ids
      { time := now, garbageCollected := collected.length } collected with idle | busy
    · exact .inl idle
    · exact .inr ⟨_, _, _, _, rfl, busy⟩

/-- A tick that finds clusters commits what the policy comes to and hands out what the commit has
entered. It lists as created what the policy has started. -/
theorem tick_of_clustered (ids : IdSource) {begun : EngineState W} {collected : List Alarm}
    {expired : Nat} {clusters : List Cluster} (admitted : state.checkTick now = .ok ())
    (begins : state.beginTick parameters now = (begun, collected, expired))
    (busy : ¬ begun.isIdle) (clustered : (begun.cluster parameters).1 = .ok clusters) :
    let evaluated := begun.deliberate parameters ids now clusters collected begun.pendingFeedback
    let entered := (begun.ledger.commit evaluated.1.draft begun.graph).run
      (begun.cluster parameters).2.distances
    ∃ outcome, state.tick parameters ids now =
        (.ok outcome, { begun with
          pendingFeedback := [], dirty := false, distances := entered.2, ledger := entered.1.1 },
          evaluated.1.ids) ∧
      outcome.summary.skipped = false ∧ outcome.summary.clusters = clusters.length ∧
      outcome.emitted = entered.1.2 ∧ (outcome.summary.created, outcome.summary.updated) =
        (outcome.emitted.map Situation.id).partition evaluated.1.draft.newIds.contains := by
  have quiet := congrArg Prod.fst (cluster_withoutFeedback parameters begun)
  have correlated := correlate_of_ok ids { time := now, garbageCollected := collected.length }
    collected begun.pendingFeedback (quiet.trans clustered)
  rw [tick, admitted]
  simp only [begins, finishTick, if_neg busy, correlated]
  exact ⟨_, rfl, rfl, rfl, rfl, rfl⟩

/-- A tick that does not come to a correlation leaves the ledger alone and hands out nothing. -/
theorem tick_of_none (ids : IdSource) (nothing : state.tickFacts? parameters now = none) :
    (state.tick parameters ids now).2.1.ledger = state.ledger ∧
      (state.tick parameters ids now).2.1.phase = state.phase ∧
      ∀ outcome, (state.tick parameters ids now).1 = .ok outcome → outcome.summary.skipped ∧
        outcome.emitted = [] ∧ outcome.summary.created = [] ∧ outcome.summary.updated = [] := by
  rw [tickFacts?] at nothing
  rw [tick]
  cases admitted : state.checkTick now with
  | error cause => exact ⟨rfl, rfl, fun outcome ticked => nomatch ticked⟩
  | ok granted =>
    rw [admitted] at nothing
    obtain ⟨ledger, _, phase⟩ := beginTick_frame parameters state now
    generalize state.beginTick parameters now = begun at ledger phase nothing ⊢
    obtain ⟨begun, collected, expired⟩ := begun
    dsimp only at ledger phase nothing ⊢
    rw [finishTick]
    by_cases idle : begun.isIdle
    · rw [if_pos idle]
      refine ⟨ledger, phase, fun outcome ticked => ?_⟩
      rw [← Except.ok.inj ticked]
      exact ⟨rfl, rfl, rfl, rfl⟩
    rw [if_neg idle] at nothing ⊢
    cases clustered : (begun.cluster parameters).1 with
    | error cause =>
      have failed := (congrArg Prod.fst (cluster_withoutFeedback parameters begun)).trans clustered
      dsimp only
      rw [correlate_of_error _ _ _ _ failed, cluster_withoutFeedback]
      exact ⟨ledger, phase, fun outcome ticked => nomatch ticked⟩
    | ok clusters =>
      rw [clustered] at nothing
      contradiction

/-- What a tick hands out: what the commit of a draft has entered, listed as created or updated. -/
structure Emits (state : EngineState W) (draft : Draft) (after : EngineState W)
    (outcome : TickOutcome) : Prop where
  entered : ∃ cache : DistanceCache W,
    ((state.ledger.commit draft after.graph).run cache).1 = (after.ledger, outcome.emitted)
  listed : (outcome.summary.created, outcome.summary.updated) =
    (outcome.emitted.map Situation.id).partition draft.newIds.contains

/-- What comes of a tick that correlates given facts. -/
structure Correlates (parameters : Parameters W) (state : EngineState W) (ids : IdSource)
    (now : Int) (facts : Facts) : Prop where
  ledger_eq : facts.ledger = state.ledger
  feedback_eq : facts.feedback = state.pendingFeedback
  phase_eq : (state.tick parameters ids now).2.1.phase = state.phase
  active_eq : facts.active =
    Facts.indexActive (state.tick parameters ids now).2.1.graph.activeAlarms
  clustered : ∃ cache : DistanceCache W,
    ((parameters.clusterer.clusters (state.tick parameters ids now).2.1.graph
      (state.tick parameters ids now).2.1.graph.activeAlarms).run.run cache).1 = .ok facts.clusters
  ids_eq : (state.tick parameters ids now).2.2 =
    (Policy.evaluate parameters.rules facts { draft := .new now, ids }).1.ids
  answered : ∃ outcome, (state.tick parameters ids now).1 = .ok outcome ∧
    outcome.summary.clusters = facts.clusters.length
  emits : ∀ outcome, (state.tick parameters ids now).1 = .ok outcome →
    state.Emits (state.tickDraft parameters ids now) (state.tick parameters ids now).2.1 outcome

theorem tick_of_some (ids : IdSource) {facts : Facts}
    (some : state.tickFacts? parameters now = some facts) :
    Correlates parameters state ids now facts := by
  have draft : state.tickDraft parameters ids now =
      (Policy.evaluate parameters.rules facts { draft := .new now, ids }).1.draft := by
    rw [tickDraft, some]
  obtain ⟨ledger, feedback, phase⟩ := beginTick_frame parameters state now
  rw [tickFacts?] at some
  split at some
  · contradiction
  rename_i admitted
  generalize begins : state.beginTick parameters now = begun at ledger feedback phase some
  obtain ⟨begun, collected, expired⟩ := begun
  simp only at ledger feedback phase some
  split at some
  · contradiction
  rename_i busy
  split at some
  · contradiction
  rename_i clusters clustered
  obtain ⟨outcome, ticked, _, counted, emitted, listed⟩ :=
    tick_of_clustered ids admitted begins busy clustered
  have facts_eq := Option.some.inj some
  subst facts_eq
  rw [deliberate, ← draft] at ticked emitted listed
  rw [ledger] at ticked emitted
  refine ⟨ledger, feedback, ?_, ?_, ?_, ?_, ?_, fun other answer => ?_⟩
  · rw [ticked]
    exact phase
  · rw [ticked]
    rfl
  · rw [ticked]
    exact ⟨begun.distances, clustered⟩
  · rw [ticked]
  · rw [ticked]
    exact ⟨_, rfl, counted⟩
  · rw [ticked] at answer ⊢
    rw [← Except.ok.inj answer]
    exact ⟨⟨(begun.cluster parameters).2.distances, Prod.ext rfl emitted.symm⟩, listed⟩

namespace Correlates

variable {facts : Facts} (correlates : Correlates parameters state ids now facts)
include correlates

theorem committed : ∃ (graph : Topology W) (cache : DistanceCache W),
    (state.tick parameters ids now).2.1.ledger =
      ((state.ledger.commit (state.tickDraft parameters ids now) graph).run cache).1.1 := by
  obtain ⟨outcome, answer, _⟩ := correlates.answered
  obtain ⟨cache, entered⟩ := (correlates.emits outcome answer).entered
  exact ⟨_, cache, (congrArg Prod.fst entered).symm⟩

theorem created {outcome : TickOutcome} (answer : (state.tick parameters ids now).1 = .ok outcome)
    {id : String} (listed : id ∈ outcome.summary.created) :
    id ∈ (state.tickDraft parameters ids now).newIds := by
  have parts := (correlates.emits outcome answer).listed
  rw [List.partition_eq_filter_filter] at parts
  rw [(Prod.mk.inj parts).1] at listed
  exact List.contains_iff_mem.mp (List.mem_filter.mp listed).2

end Correlates

theorem Correlates.sound {facts : Facts} (correlates : Correlates parameters state ids now facts)
    (coherent : state.ledger.Coherent) : facts.Sound where
  coherent := correlates.ledger_eq ▸ coherent
  keyed := by
    rw [correlates.active_eq]
    exact Facts.indexActive_keyed _

omit [Weight W] in
/-- An alarm that cannot be held changes nothing. One that is held is so at one vertex only. -/
theorem tryAlarm_cases (state : EngineState W) (alarm : Alarm) :
    (∃ cause, state.graph.putAlarm alarm = .error cause) ∧ (state.tryAlarm alarm).1 = state ∨
    ∃ held id awoke graph, state.graph.putAlarm alarm = .ok (held, id, awoke) ∧
      (graph = held ∧ (∀ previous ∈ state.alarmVertices[alarm.id]?, previous = id) ∨
        ∃ previous ∈ state.alarmVertices[alarm.id]?, previous ≠ id ∧
          graph = held.releaseAlarm previous alarm.id) ∧
      (state.tryAlarm alarm).1 = { state with
        graph, alarmVertices := state.alarmVertices.insert alarm.id id, dirty := true } := by
  rw [tryAlarm]
  split
  · rename_i next put
    rw [putAlarm] at put
    split at put
    · contradiction
    rename_i held id awoke placed
    refine .inr ⟨held, id, awoke, _, placed, ?_, (Except.ok.inj put).symm⟩
    split
    · rename_i previous known
      split
      · rename_i same
        exact .inl ⟨rfl, fun other member => Option.some.inj (known.symm.trans member) ▸ same⟩
      · rename_i different
        exact .inr ⟨previous, known, different, rfl⟩
    · rename_i unknown
      exact .inl ⟨rfl, fun _ member => absurd (unknown.symm.trans member) nofun⟩
  · rename_i refused
    rw [putAlarm] at refused
    split at refused
    · rename_i cause unfit
      exact .inl ⟨⟨cause, unfit⟩, rfl⟩
    · contradiction

/-- What stays the same when alarms are held. -/
structure AlarmFrame (before after : EngineState W) : Prop where
  phase_eq : after.phase = before.phase
  distances_eq : after.distances = before.distances
  ledger_eq : after.ledger = before.ledger
  pendingCollected_eq : after.pendingCollected = before.pendingCollected

omit [Weight W] in
theorem tryAlarm_frame (state : EngineState W) (alarm : Alarm) :
    AlarmFrame state (state.tryAlarm alarm).1 := by
  rcases state.tryAlarm_cases alarm with ⟨_, same⟩ | ⟨_, _, _, _, _, _, same⟩ <;> rw [same]
  · exact ⟨rfl, rfl, rfl, rfl⟩
  · exact ⟨rfl, rfl, rfl, rfl⟩

omit [Weight W] in
theorem tryAlarms_eq (state : EngineState W) (alarms : List Alarm) :
    (state.tryAlarms alarms).1 = alarms.foldl (fun state alarm => (tryAlarm state alarm).1) state :=
  Collections.foldl_counted (fun state alarm => (tryAlarm state alarm).1)
    (fun state alarm => (tryAlarm state alarm).2.toNat) alarms state 0

omit [Weight W] in
theorem tryAlarms_frame (state : EngineState W) (alarms : List Alarm) :
    AlarmFrame state (state.tryAlarms alarms).1 := by
  rw [tryAlarms_eq]
  refine List.foldlRecOn alarms _ (motive := AlarmFrame state) ⟨rfl, rfl, rfl, rfl⟩ ?_
  intro before frame alarm _
  have step := tryAlarm_frame before alarm
  exact ⟨step.phase_eq.trans frame.phase_eq, step.distances_eq.trans frame.distances_eq,
    step.ledger_eq.trans frame.ledger_eq, step.pendingCollected_eq.trans frame.pendingCollected_eq⟩

/-- Initial records are loaded once. -/
theorem load_spec {data : InitialData W} {counts : InitialCounts} {next : EngineState W}
    (loaded : state.load data = .ok (next, counts)) :
    let added : EngineState W :=
      { state with graph := (state.graph.addInventory data.inventory).1 }
    let held := (added.tryAlarms data.alarms).1
    state.phase = .uninitialized ∧ next = { held with
      ledger := (held.ledger.loadAll data.situations).1, dirty := true, phase := .initialized
      pendingFeedback := held.pendingFeedback ++ data.feedback } := by
  rw [load] at loaded
  split at loaded
  · contradiction
  · contradiction
  · rename_i phase
    exact ⟨phase, (Prod.mk.inj (Except.ok.inj loaded)).1.symm⟩

/-- What a step between ticks does to the ledger. Situations are loaded once. -/
theorem Quiet.ledger_cases {next : EngineState W} (step : Quiet parameters state next) :
    next.ledger = state.ledger ∧ next.phase = state.phase ∨
      (∃ situations, (∀ situation ∈ situations, situation.alarms.IsKeyed) ∧
        next.ledger = (state.ledger.loadAll situations).1 ∧
        state.phase = .uninitialized ∧ next.phase = .initialized) ∨
      (∃ id, next.ledger = state.ledger.delete id ∧ next.phase = state.phase) ∨
      next.ledger = {} ∧ next.phase = .destroyed := by
  cases step with
  | @load data next counts keyed loaded =>
    obtain ⟨phase, rfl⟩ := load_spec loaded
    refine .inr (.inl ⟨data.situations, keyed, ?_, phase, rfl⟩)
    exact congrArg (fun ledger : Ledger => (ledger.loadAll data.situations).1)
      (tryAlarms_frame _ data.alarms).ledger_eq
  | carryOut callback =>
    cases callback with
    | alarm alarm =>
      have frame := tryAlarm_frame state alarm
      exact .inl ⟨frame.ledger_eq, frame.phase_eq⟩
    | clear alarm =>
      have frame := tryAlarm_frame state alarm.clear
      exact .inl ⟨frame.ledger_eq, frame.phase_eq⟩
    | deleteSituation id => exact .inr (.inr (.inl ⟨id, rfl, rfl⟩))
    | _ => exact .inl ⟨rfl, rfl⟩
  | destroy =>
    rw [EngineState.destroy]
    split
    · exact .inl ⟨rfl, rfl⟩
    · exact .inr (.inr (.inr ⟨rfl, rfl⟩))
  | distance distances => exact .inl ⟨rfl, rfl⟩

theorem Quiet.ledger_coherent {next : EngineState W} (step : Quiet parameters state next)
    (coherent : state.ledger.Coherent) : next.ledger.Coherent := by
  rcases step.ledger_cases with
    ⟨same, _⟩ | ⟨situations, keyed, same, _⟩ | ⟨id, same, _⟩ | ⟨same, _⟩ <;> rw [same]
  · exact coherent
  · exact coherent.loadAll keyed
  · exact coherent.delete id
  · exact Ledger.coherent_empty

/-- A tick that correlates has had its initial records. -/
theorem phase_of_tickFacts? {facts : Facts} (some : state.tickFacts? parameters now = some facts) :
    state.phase = .initialized := by
  rw [tickFacts?] at some
  split at some
  · contradiction
  · rename_i admitted
    rw [checkTick] at admitted
    split at admitted
    · contradiction
    · contradiction
    · assumption

end EngineState

namespace Engine

open EngineState (Correlates)

variable {parameters : Parameters W} {engine : Engine W} {now : Int}

/-- The draft that a tick of an engine commits. -/
def tickDraft (engine : Engine W) (now : Int) : Draft :=
  engine.state.tickDraft engine.parameters engine.ids now

theorem tickDraft_of_none
    (nothing : engine.state.tickFacts? engine.parameters now = none) :
    engine.tickDraft now = .new now := by
  rw [tickDraft, EngineState.tickDraft, nothing]

/-- The ids that the policy draws in a tick are not those of situations in the ledger. -/
theorem evaluate_fresh (fresh : engine.DrawsFresh now) {facts : Facts}
    (some : engine.state.tickFacts? engine.parameters now = some facts) :
    ∀ n, engine.ids.next ≤ n →
      n < (Policy.evaluate engine.parameters.rules facts
        { draft := .new now, ids := engine.ids }).1.ids.next →
      engine.ids.name n ∉ facts.ledger.situations := by
  have correlates : Correlates engine.parameters engine.state engine.ids now facts :=
    EngineState.tick_of_some _ some
  intro n lower upper
  rw [correlates.ledger_eq]
  apply fresh n lower
  rw [(tick_eq engine now).2.2, correlates.ids_eq]
  exact upper

section Default

variable (default : engine.parameters.rules = Rule.defaultOrder) {facts : Facts}
  (some : engine.state.tickFacts? engine.parameters now = some facts)
include default some

theorem tickDraft_of_some : engine.tickDraft now = Policy.finalDraft facts now engine.ids := by
  rw [tickDraft, EngineState.tickDraft, some, default]
  rfl

theorem drawsFresh_facts (fresh : engine.DrawsFresh now) :
    Policy.DrawsFresh facts now engine.ids := by
  have drawn := evaluate_fresh fresh some
  rwa [default] at drawn

end Default

/-- A tick with the default policy commits a coherent draft, or an empty one. -/
theorem tick_committed (default : engine.parameters.rules = Rule.defaultOrder)
    (coherent : engine.state.ledger.Coherent) (fresh : engine.DrawsFresh now) :
    (engine.tickDraft now).Coherent engine.state.ledger ∧
      engine.state.ledger.Committed (engine.tickDraft now) (engine.tick now).1.state.ledger := by
  rw [(tick_eq engine now).2.1]
  cases found : engine.state.tickFacts? engine.parameters now with
  | none =>
    rw [tickDraft_of_none found, (EngineState.tick_of_none _ found).1]
    exact ⟨Draft.coherent_new coherent.orderly now, Ledger.committed_new coherent now⟩
  | some facts =>
    have correlates : Correlates engine.parameters engine.state engine.ids now facts :=
      EngineState.tick_of_some _ found
    have drafted : (engine.tickDraft now).Coherent engine.state.ledger := by
      rw [tickDraft_of_some default found, ← correlates.ledger_eq]
      exact Policy.finalDraft_coherent (correlates.sound coherent)
        (drawsFresh_facts default found fresh)
    obtain ⟨graph, cache, committed⟩ := correlates.committed
    rw [committed]
    exact ⟨drafted, Ledger.commit_committed coherent drafted graph cache⟩

/-- A tick that correlates tells how many clusters it has looked at. -/
theorem clusters_tick {number : Nat}
    (found : (engine.state.tickFacts? engine.parameters now).map
      (fun facts => facts.clusters.length) = some number) :
    (engine.tick now).2.toOption.map TickSummary.clusters = some number := by
  obtain ⟨facts, correlated, rfl⟩ := Option.map_eq_some_iff.mp found
  obtain ⟨outcome, answer, counted⟩ := (EngineState.tick_of_some engine.ids correlated).answered
  rw [tick_answer, answer, ← counted]
  rfl

theorem phase_tick (engine : Engine W) (now : Int) :
    (engine.tick now).1.state.phase = engine.state.phase := by
  rw [(tick_eq engine now).2.1]
  cases found : engine.state.tickFacts? engine.parameters now with
  | none => exact (EngineState.tick_of_none _ found).2.1
  | some facts => exact (EngineState.tick_of_some _ found).phase_eq

/-- Until the initial records are in, the ledger is without situations. -/
theorem Reachable.situations_of_uninitialized (reached : Reachable parameters engine) :
    engine.state.phase = .uninitialized → engine.state.ledger.situations = ∅ := by
  refine reached.invariant
    (fun state => state.phase = .uninitialized → state.ledger.situations = ∅)
    (fun _ => rfl) (fun state next before step uninitialized => ?_)
    fun engine _ before now _ uninitialized => ?_
  · rcases step.ledger_cases with
      ⟨same, phase⟩ | ⟨_, _, _, _, phase⟩ | ⟨id, same, phase⟩ | ⟨_, phase⟩
    · rw [same]
      exact before (phase ▸ uninitialized)
    · rw [phase] at uninitialized
      contradiction
    · rw [same, Ledger.delete, before (phase ▸ uninitialized)]
      exact ExtTreeMap.erase_empty
    · rw [phase] at uninitialized
      contradiction
  · rw [phase_tick] at uninitialized
    cases found : engine.state.tickFacts? engine.parameters now with
    | none =>
      rw [(tick_eq engine now).2.1, (EngineState.tick_of_none _ found).1]
      exact before uninitialized
    | some facts =>
      rw [EngineState.phase_of_tickFacts? found] at uninitialized
      contradiction

/-- With the default policy the ledger of every engine is coherent. -/
theorem Reachable.ledger_coherent (reached : Reachable parameters engine)
    (default : parameters.rules = Rule.defaultOrder) : engine.state.ledger.Coherent :=
  reached.invariant (fun state => state.ledger.Coherent) Ledger.coherent_empty
    (fun _ _ coherent step => step.ledger_coherent coherent)
    fun engine equal coherent now fresh => by
      obtain ⟨drafted, committed⟩ := tick_committed (equal ▸ default) coherent fresh
      exact committed.coherent_after drafted coherent

end Engine
end FaultCorrelation
