import Mathlib
import FaultCorrelation.Proofs.Engine.Alike
import FaultCorrelation.Proofs.Engine.LifeCycle

/-! # The order in which alarms arrive

Alarms of different ids may reach a running engine in any order. An alarm that moves away can take
its vertex with it, and another alarm bring the vertex back under a new number. So the order shows
in the numbers of lone vertices and in what is remembered of distances; but as long as no edge has
a negative weight, no tick tells the difference.

An edge of negative weight, which a removal can leave behind, makes a distance depend on the vertex
it is searched from. Then it matters what is remembered, and so the order matters.
-/

namespace FaultCorrelation

open Weight (IsExact)

variable {W : Type} [Weight W]

omit [Weight W] in
/-- The alarm that a callback brings, if it brings one. -/
def Callback.subject? : Callback W → Option Alarm
  | .alarm subject => some subject
  | .clear subject => some subject.clear
  | _ => none

namespace EngineState

variable {state next last : EngineState W}

theorem carryOut_of_subject {callback : Callback W} {alarm : Alarm}
    (brought : callback.subject? = some alarm) :
    (state.carryOut callback).1 = (state.tryAlarm alarm).1 := by
  cases callback with
  | alarm other =>
    obtain rfl := Option.some.inj brought
    rfl
  | clear other =>
    obtain rfl := Option.some.inj brought
    rfl
  | _ => contradiction

omit [Weight W] in
/-- Alarms of different ids that arrive in two orders lead to states that are alike. -/
theorem Took.alike {alarms others : List Alarm} (one : Took alarms state next)
    (two : Took others state last) (permuted : others.Perm alarms)
    (distinct : (alarms.map Alarm.id).Nodup) : Alike next last where
  here := one.accounted
  there := two.accounted
  matched := one.matched.symm.trans two.matched
  instance_eq name := by
    rw [one.instance_eq, two.instance_eq]
    refine permuted.foldl_eq' (fun first here second there found => ?_) _
    have apart := List.inj_on_of_nodup_map distinct (permuted.mem_iff.mp here)
      (permuted.mem_iff.mp there)
    grind [Alarm.supersede]
  rest := by
    have fit : others.any Alarm.isFit = alarms.any Alarm.isFit := permuted.any_eq
    have same := one.rest
    generalize next.graph = graph, next.alarmVertices = vertices at same
    rw [two.rest, same, fit]

end EngineState

namespace Engine

variable {parameters : Parameters W} {engine other : Engine W}

/-- The barrier of an engine that runs is open. -/
theorem isOpen_performAll (parameters : Parameters W) (tickResolution : Int)
    (instanceName : String) (ids : IdSource) (calls : List (Call W)) :
    let engine := (startWith parameters tickResolution instanceName ids).performAll calls
    engine.state.phase = .initialized → engine.isOpen := by
  intro engine running
  have follows : engine.FollowsPhase calls :=
    followsPhase_performAll parameters tickResolution instanceName ids calls
  rw [follows.isOpen_iff, running]
  decide

theorem runAll_alarms {batch : List (Callback W)}
    (alarms : ∀ callback ∈ batch, callback.subject?.isSome)
    (running : engine.state.phase = .initialized) :
    (engine.runAll batch).1 = { engine with
      state := (batch.filterMap Callback.subject?).foldl
        (fun state alarm => (state.tryAlarm alarm).1) engine.state } := by
  induction batch generalizing engine with
  | nil => rfl
  | cons first rest ih =>
    obtain ⟨alarm, brought⟩ := Option.isSome_iff_exists.mp (alarms first (List.mem_cons_self ..))
    have ran : (engine.run first).1 =
        { engine with state := (engine.state.tryAlarm alarm).1 } := by
      have answered : (engine.state.answer first).1 = (engine.state.tryAlarm alarm).1 := by
        rw [EngineState.answer, running, if_neg (by decide),
          EngineState.carryOut_of_subject brought]
      rw [← answered]
      cases first with
      | deleteSituation id => contradiction
      | _ => rfl
    have still : (engine.run first).1.state.phase = .initialized := by
      rw [ran]
      exact (EngineState.tryAlarm_frame engine.state alarm).phase_eq.trans running
    rw [List.filterMap_cons_some brought, List.foldl_cons]
    exact (ih (fun callback member => alarms callback (List.mem_cons_of_mem _ member)) still).trans
      (by rw [ran])

theorem performAll_alarms {batches : List (List (Callback W))}
    (alarms : ∀ callback ∈ batches.flatten, callback.subject?.isSome) (isOpen : engine.isOpen)
    (running : engine.state.phase = .initialized) :
    engine.performAll (batches.map .submit) = { engine with
      state := (batches.flatten.filterMap Callback.subject?).foldl
        (fun state alarm => (state.tryAlarm alarm).1) engine.state } := by
  induction batches generalizing engine with
  | nil => rfl
  | cons first rest ih =>
    simp only [List.flatten_cons, List.mem_append] at alarms
    have ran := runAll_alarms (fun callback member => alarms callback (.inl member)) running
    have submitted : engine.perform (.submit first) = (engine.runAll first).1 := by
      rw [perform, submit, isOpen, Bool.true_or, if_pos rfl]
    have still : (engine.perform (.submit first)).state.phase = .initialized := by
      rw [submitted, ran]
      exact List.foldlRecOn _ _ (motive := fun (state : EngineState W) => state.phase = _) running
        fun state before alarm _ => (EngineState.tryAlarm_frame state alarm).phase_eq.trans before
    have opened : (engine.perform (.submit first)).isOpen := by rwa [submitted, ran]
    refine (ih (fun callback member => alarms callback (.inr member)) opened still).trans ?_
    rw [submitted, ran, List.flatten_cons, List.filterMap_append, List.foldl_append]

/-- Whether two engines differ in the numbers of lone vertices and in remembered distances, if in
anything that a tick looks at. -/
structure Interchangeable (engine other : Engine W) : Prop where
  parameters_eq : other.parameters = engine.parameters
  ids_eq : other.ids = engine.ids
  alike : engine.state.Alike other.state
  here : engine.state.Remembers
  there : other.state.Remembers
  positive : engine.state.graph.NonNegative

theorem Interchangeable.tick [IsExact W] (same : Interchangeable engine other) (now : Int) :
    (other.tick now).2 = (engine.tick now).2 ∧
      Interchangeable (engine.tick now).1 (other.tick now).1 := by
  obtain ⟨parameters, state, ids⟩ := tick_eq engine now
  obtain ⟨others, twin, drawn⟩ := tick_eq other now
  obtain ⟨answer, draws, alike⟩ :=
    same.alike.tick same.here same.there same.positive engine.parameters engine.ids now
  rw [same.parameters_eq, same.ids_eq] at twin drawn
  refine ⟨?_, ?_, ?_, ?_, ?_, ?_, ?_⟩
  · rw [tick_answer, tick_answer, same.parameters_eq, same.ids_eq, answer]
  · rw [others, parameters, same.parameters_eq]
  · rw [drawn, ids, draws]
  · rw [twin, state]
    exact alike
  · rw [state]
    exact same.here.tick _ _ now
  · rw [twin]
    exact same.there.tick _ _ now
  · rw [state]
    exact same.positive.congr (EngineState.edges_tick same.alike.here _ _ now)

theorem Interchangeable.ticks [IsExact W] (same : Interchangeable engine other) (ticks : List Int) :
    Interchangeable (engine.performAll (ticks.map .tick)) (other.performAll (ticks.map .tick)) := by
  induction ticks generalizing engine other with
  | nil => exact same
  | cons first rest ih => exact ih (same.tick first).2

/-- Interchangeable engines hold the same alarms on every resource. -/
theorem Interchangeable.alarmsOn (same : Interchangeable engine other) (key : ResourceKey) :
    other.alarmsOn key = engine.alarmsOn key := by
  have values (engine : Engine W) : engine.alarmsOn key =
      (((engine.state.graph.vertexFor? key).map Vertex.alarms).getD ∅).values := by
    rw [Engine.alarmsOn]
    cases engine.state.graph.vertexFor? key with
    | none => exact (Collections.values_eq ∅).symm
    | some vertex => rfl
  rw [values, values]
  refine congrArg Std.ExtTreeMap.values (Std.ExtTreeMap.ext_getElem? fun name => ?_)
  refine Option.ext fun copy => ?_
  rw [← EngineState.custody_fst, ← EngineState.custody_fst, same.alike.there.getElem?_alarmsOn,
    same.alike.here.getElem?_alarmsOn, EngineState.custody_fst, EngineState.custody_fst,
    same.alike.instance_eq]

/-- Where weights are exact and no edge has a negative one, alarms of different ids may reach a
running engine in any order and in any batches: on every tick from then on it answers the same, and
it keeps the same ledger and the same alarms on every resource. -/
theorem arrival_order_immaterial [IsExact W] (parameters : Parameters W) (tickResolution : Int)
    (instanceName : String) (ids : IdSource) (calls : List (Call W))
    (running : ((startWith parameters tickResolution instanceName ids).performAll
      calls).state.phase = .initialized)
    (positive : ((startWith parameters tickResolution instanceName ids).performAll
      calls).state.graph.NonNegative)
    {batches others : List (List (Callback W))}
    (alarms : ∀ callback ∈ batches.flatten, callback.subject?.isSome)
    (distinct : ((batches.flatten.filterMap Callback.subject?).map Alarm.id).Nodup)
    (permuted : others.flatten.Perm batches.flatten) (ticks : List Int) (now : Int) :
    let engine := (startWith parameters tickResolution instanceName ids).performAll calls
    let first := engine.performAll (batches.map .submit ++ ticks.map .tick)
    let second := engine.performAll (others.map .submit ++ ticks.map .tick)
    (second.tick now).2 = (first.tick now).2 ∧
      (second.tick now).1.state.ledger = (first.tick now).1.state.ledger ∧
      (second.tick now).1.ids = (first.tick now).1.ids ∧
      ∀ key, (second.tick now).1.alarmsOn key = (first.tick now).1.alarmsOn key := by
  intro engine first second
  have isOpen : engine.isOpen :=
    isOpen_performAll parameters tickResolution instanceName ids calls running
  have accounted : engine.state.custody.Accounted :=
    accounted_performAll parameters tickResolution instanceName ids calls
  have remembers (batches : List (List (Callback W))) :
      (engine.performAll (batches.map .submit)).state.Remembers := by
    have run := remembers_performAll parameters tickResolution instanceName ids
      (calls ++ batches.map .submit)
    rwa [performAll_append] at run
  have one := performAll_alarms alarms isOpen running
  have two := performAll_alarms (fun callback member => alarms callback
    (permuted.mem_iff.mp member)) isOpen running
  have took := EngineState.took_foldl accounted (batches.flatten.filterMap Callback.subject?)
  have takes := EngineState.took_foldl accounted (others.flatten.filterMap Callback.subject?)
  have arrived : Interchangeable (engine.performAll (batches.map .submit))
      (engine.performAll (others.map .submit)) := by
    refine ⟨by rw [one, two], by rw [one, two], ?_, remembers batches, remembers others, ?_⟩
    · rw [one, two]
      exact took.alike takes (permuted.filterMap _) distinct
    · rw [one]
      exact positive.congr took.matched.edges_eq
  obtain ⟨answer, same⟩ := (arrived.ticks ticks).tick now
  simp only [first, second, performAll_append]
  exact ⟨answer, same.alike.ledger_eq, same.ids_eq, same.alarmsOn⟩

/-- The default policy on rational weights, with little room for distances. Alarms are as far apart
as their times, in seconds, and the absolute distance of their vertices; each is a core point. -/
def rationalParameters : Parameters ℚ where
  weights := { parent := 1, peer := 2, relative := 5 }
  cacheCapacity := 3
  clearedLifetime := 300000
  problemLifetime := 7200000
  clusterer :=
    { density := { epsilon := 2, minPoints := 1 }
      measure := fun first second spatial => ((first - second).natAbs / 1000 : Nat) + |spatial| }
  rules := Rule.defaultOrder

/-- A host and its relations to others. -/
def hostObject (id : String) (peers : List (String × ℚ)) : InventoryObject ℚ :=
  { InventoryObject.bare "node" id with
    peers := peers.map fun peer => ⟨⟨"node", peer.1⟩, some peer.2⟩ }

/-- An alarm on a host. -/
def hostAlarm (id host : String) (time : Int) : Alarm :=
  { nodeAlarm id with time, resource := some ⟨["node", host]⟩ }

/-- An engine that starts from an alarm on host `s` and from given objects. -/
def hostEngine (inventory : List (InventoryObject ℚ)) (calls : List (Call ℚ)) : Engine ℚ :=
  (startWith rationalParameters 1000 "node" .counting).performAll
    (.init { alarms := [hostAlarm "a" "s" 1], inventory } :: calls)

/-- Alarms that arrive: `a` leaves host `s`, and `c` comes to it. -/
def passingAlarms : List (Callback ℚ) :=
  [.alarm (hostAlarm "a" "p" 1), .alarm (hostAlarm "c" "s" 0), .alarm (hostAlarm "b" "q" 1)]

/-- Hosts `p` and `q`, related by a weight that is not negative. -/
def soundHosts : List (InventoryObject ℚ) := [hostObject "q" [("p", 1)], hostObject "p" []]

/-- An engine on these hosts where alarms have arrived. -/
def passingEngine (batch : List (Callback ℚ)) : Engine ℚ :=
  (hostEngine soundHosts []).performAll [.submit batch]

/-- Where `a` is the first to arrive, its vertex goes with it and comes back under a new number. -/
theorem arrival_order_immaterial_passing :
    (hostEngine soundHosts []).state.phase = .initialized ∧
      (hostEngine soundHosts []).state.graph.NonNegative ∧
      ((passingEngine passingAlarms.reverse).state.graph.vertexFor? ⟨["node", "s"]⟩).map
        Vertex.id = some 2 ∧
      ((passingEngine passingAlarms).state.graph.vertexFor? ⟨["node", "s"]⟩).map
        Vertex.id = some 3 ∧
      let first := (passingEngine passingAlarms).tick 10
      let second := (passingEngine passingAlarms.reverse).tick 10
      second.2 = first.2 ∧ second.1.state.ledger = first.1.state.ledger ∧
        ∀ key, second.1.alarmsOn key = first.1.alarmsOn key := by
  have running : (hostEngine soundHosts []).state.phase = .initialized := by decide +kernel
  have positive : (hostEngine soundHosts []).state.graph.NonNegative := by decide +kernel
  have permuted : [passingAlarms.reverse].flatten.Perm [passingAlarms].flatten := by simp
  refine ⟨running, positive, by decide +kernel, by decide +kernel, ?_⟩
  obtain ⟨answer, ledger, _, alarms⟩ := arrival_order_immaterial rationalParameters 1000 "node"
    .counting [.init { alarms := [hostAlarm "a" "s" 1], inventory := soundHosts }] running positive
    (by decide) (by decide) permuted [] 10
  simp only [List.map_cons, List.map_nil, List.append_nil] at answer ledger alarms
  simp only [passingEngine, hostEngine]
  exact ⟨answer, ledger, alarms⟩

/-- Host `r` is taken in half-way, since its relation to `p` has a negative weight; `p` is taken in
with an edge between them. -/
def spoilingHosts : List (InventoryObject ℚ) :=
  [hostObject "r" [("q", 2), ("p", -5)], hostObject "q" [("p", 1)], hostObject "p" [("r", 1)]]

/-- An engine where this edge has passed to `r`, with distances from `s` and between `q` and `p`
that leave no room. -/
def spoiledEngine : Engine ℚ :=
  hostEngine spoilingHosts
    [.submit [.removeInventory [hostObject "p" []]], .distance 3 2, .distance 3 1, .distance 1 2,
      .distance 3 2, .distance 3 1]

/-- If `a` is the first to arrive, the distance between `q` and `p` is forgotten and searched for
again, from the other end; because of the negative edge it is another one then. -/
theorem arrival_order_matters :
    spoiledEngine.state.phase = .initialized ∧ ¬ spoiledEngine.state.graph.NonNegative ∧
      (∀ callback ∈ passingAlarms, callback.subject?.isSome) ∧
      ((passingAlarms.filterMap Callback.subject?).map Alarm.id).Nodup ∧
      passingAlarms.reverse.Perm passingAlarms ∧
      ((spoiledEngine.performAll [.submit passingAlarms.reverse]).tick 10).2 ≠
        ((spoiledEngine.performAll [.submit passingAlarms]).tick 10).2 := by
  refine ⟨by decide +kernel, by decide +kernel, by decide +kernel, by decide +kernel,
    passingAlarms.reverse_perm, fun same => ?_⟩
  -- Forgetting takes the least key of a table, which the kernel does not unfold.
  have apart : ((spoiledEngine.performAll [.submit passingAlarms]).tick 10).2.toOption.map
      TickSummary.clusters = some 3 := clusters_tick (by decide_cbv)
  have joined : ((spoiledEngine.performAll [.submit passingAlarms.reverse]).tick 10).2.toOption.map
      TickSummary.clusters = some 2 := clusters_tick (by decide_cbv)
  have equal := congrArg (fun answer => answer.toOption.map TickSummary.clusters) same
  exact absurd (joined.symm.trans (equal.trans apart)) (by decide)

end Engine
end FaultCorrelation
