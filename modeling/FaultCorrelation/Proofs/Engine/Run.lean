import Mathlib.Data.List.Induction
import Mathlib.Logic.Relation
import FaultCorrelation.Engine.Basic
import FaultCorrelation.Proofs.Alarm.Keyed

/-! # Runs of an engine

A run starts with a new engine, on any supply of ids, and makes calls one after the other. Callers
promise two things: the situations an engine is started from hold their alarms under the alarms' own
ids, and an id drawn in a tick is not that of a situation in the ledger.

But for ticks, all that a call does to the state of the engine is done in quiet steps
(`EngineState.Quiet`), so that an invariant has to be shown for these and for ticks.
-/

namespace FaultCorrelation

variable {W : Type} [Weight W]

/-- A call on an engine. -/
inductive Call (W : Type) where
  | init (data : InitialData W)
  | submit (batch : List (Callback W))
  | takeTurn (place : Nat)
  | tick (now : Int)
  | destroy
  | registerOutlet
  | takeEvents
  | distance (a b : VertexId)

namespace Engine

/-- The engine after a call. -/
def perform (engine : Engine W) : Call W → Engine W
  | .init data => (engine.init data).1
  | .submit batch => (engine.submit batch).1
  | .takeTurn place => (engine.takeTurn place).1
  | .tick now => (engine.tick now).1
  | .destroy => engine.destroy
  | .registerOutlet => engine.registerOutlet.1
  | .takeEvents => engine.takeEvents.1
  | .distance a b => (engine.distance a b).1

/-- The engine after calls made in order. -/
def performAll (engine : Engine W) (calls : List (Call W)) : Engine W := calls.foldl perform engine

/-- Whether the ids that a tick draws are not those of situations in the ledger. -/
def DrawsFresh (engine : Engine W) (now : Int) : Prop :=
  ∀ n, engine.ids.next ≤ n → n < (engine.tick now).1.ids.next →
    engine.ids.name n ∉ engine.state.ledger.situations

/-- What a caller promises about a call. -/
def Admits (engine : Engine W) : Call W → Prop
  | .init data => ∀ situation ∈ data.situations, situation.alarms.IsKeyed
  | .tick now => engine.DrawsFresh now
  | _ => True

/-- What a caller promises about calls made in order. -/
def AdmitsAll (engine : Engine W) : List (Call W) → Prop
  | [] => True
  | call :: rest => engine.Admits call ∧ (engine.perform call).AdmitsAll rest

theorem performAll_append (engine : Engine W) (done rest : List (Call W)) :
    engine.performAll (done ++ rest) = (engine.performAll done).performAll rest :=
  List.foldl_append

theorem admitsAll_append {engine : Engine W} {done rest : List (Call W)} :
    engine.AdmitsAll (done ++ rest) ↔
      engine.AdmitsAll done ∧ (engine.performAll done).AdmitsAll rest := by
  induction done generalizing engine with
  | nil => exact ⟨fun admitted => ⟨trivial, admitted⟩, And.right⟩
  | cons call done ih =>
    simp only [List.cons_append, AdmitsAll, ih, and_assoc]
    rfl

/-- An engine that runs on given parameters and draws ids from a given supply. -/
def startWith (parameters : Parameters W) (tickResolution : Int) (instanceName : String)
    (ids : IdSource) : Engine W :=
  { start parameters tickResolution instanceName with ids }

/-- The engines that calls lead to. -/
inductive Reachable (parameters : Parameters W) : Engine W → Prop where
  | start (tickResolution : Int) (instanceName : String) (ids : IdSource) :
      Reachable parameters (startWith parameters tickResolution instanceName ids)
  | perform {engine : Engine W} (reached : Reachable parameters engine) (call : Call W)
      (admitted : engine.Admits call) : Reachable parameters (engine.perform call)

theorem Reachable.performAll {parameters : Parameters W} {engine : Engine W}
    (reached : Reachable parameters engine) {calls : List (Call W)}
    (admitted : engine.AdmitsAll calls) : Reachable parameters (engine.performAll calls) := by
  induction calls generalizing engine with
  | nil => exact reached
  | cons call rest ih => exact ih (reached.perform call admitted.1) admitted.2

end Engine

namespace EngineState

/-- A step between ticks. -/
inductive Quiet (parameters : Parameters W) (state : EngineState W) : EngineState W → Prop where
  | load {data : InitialData W} {next : EngineState W} {counts : InitialCounts}
      (keyed : ∀ situation ∈ data.situations, situation.alarms.IsKeyed)
      (loaded : state.load data = .ok (next, counts)) : Quiet parameters state next
  | carryOut (callback : Callback W) : Quiet parameters state (state.carryOut callback).1
  | destroy : Quiet parameters state (state.destroy parameters)
  | distance (distances : DistanceCache W) : Quiet parameters state { state with distances }

end EngineState

namespace Engine

open EngineState (Quiet)

variable {parameters : Parameters W}

/-- What stays the same about an engine, and what its state goes through, between ticks. -/
structure Quietly (engine next : Engine W) : Prop where
  parameters_eq : next.parameters = engine.parameters
  ids_eq : next.ids = engine.ids
  steps : Relation.ReflTransGen (Quiet engine.parameters) engine.state next.state

namespace Quietly

theorem refl (engine : Engine W) : Quietly engine engine := ⟨rfl, rfl, .refl⟩

theorem trans {engine next last : Engine W} (first : Quietly engine next)
    (second : Quietly next last) : Quietly engine last where
  parameters_eq := second.parameters_eq.trans first.parameters_eq
  ids_eq := second.ids_eq.trans first.ids_eq
  steps := first.steps.trans (first.parameters_eq ▸ second.steps)

/-- What quiet steps keep is kept. -/
theorem keeps {engine next : Engine W} (quietly : Quietly engine next)
    (Invariant : EngineState W → Prop)
    (quiet : ∀ state next, Invariant state → Quiet engine.parameters state next → Invariant next)
    (before : Invariant engine.state) : Invariant next.state := by
  obtain ⟨_, _, steps⟩ := quietly
  generalize next.state = last at steps ⊢
  induction steps with
  | refl => exact before
  | tail _ step ih => exact quiet _ _ ih step

end Quietly

theorem run_quietly (engine : Engine W) (callback : Callback W) :
    Quietly engine (engine.run callback).1 := by
  have answered : Relation.ReflTransGen (Quiet engine.parameters) engine.state
      (engine.state.answer callback).1 := by
    rw [EngineState.answer]
    split
    · exact .refl
    · exact .single (.carryOut callback)
  cases callback with
  | deleteSituation id =>
    simp only [run]
    split <;> exact ⟨rfl, rfl, answered⟩
  | _ => exact ⟨rfl, rfl, answered⟩

theorem runAll_quietly (engine : Engine W) (batch : List (Callback W)) :
    Quietly engine (engine.runAll batch).1 := by
  induction batch generalizing engine with
  | nil => exact .refl engine
  | cons callback rest ih => exact (run_quietly engine callback).trans (ih _)

/-- The batch at a place among those that wait, if it may take its turn. -/
def due? (engine : Engine W) (place : Nat) : Option (List (Callback W)) :=
  if engine.isOpen then engine.waiting[place]? else none

omit [Weight W] in
theorem due?_eq_some {engine : Engine W} {place : Nat} {batch : List (Callback W)} :
    engine.due? place = some batch ↔ engine.isOpen ∧ engine.waiting[place]? = some batch :=
  Option.ite_none_right_eq_some

theorem takeTurn_of_none {engine : Engine W} {place : Nat} (idle : engine.due? place = none) :
    engine.takeTurn place = (engine, none) := by
  rw [takeTurn]
  split
  · rename_i batch waits
    have closed : ¬ engine.isOpen := fun isOpen =>
      nomatch idle.symm.trans (due?_eq_some.mpr ⟨isOpen, waits⟩)
    rw [if_neg closed]
  · rfl

/-- A batch that takes its turn waits no more, and runs. -/
theorem takeTurn_of_some {engine : Engine W} {place : Nat} {batch : List (Callback W)}
    (due : engine.due? place = some batch) :
    (engine.takeTurn place).1 =
        ({ engine with waiting := engine.waiting.eraseIdx place }.runAll batch).1 ∧
      (engine.takeTurn place).2 =
        some ({ engine with waiting := engine.waiting.eraseIdx place }.runAll batch).2 := by
  obtain ⟨isOpen, waits⟩ := due?_eq_some.mp due
  rw [takeTurn, waits]
  dsimp only
  rw [if_pos isOpen]
  exact ⟨rfl, rfl⟩

/-- Every call but a tick is quiet. -/
theorem perform_quietly (engine : Engine W) {call : Call W} (admitted : engine.Admits call)
    (between : ∀ now, call ≠ .tick now) : Quietly engine (engine.perform call) := by
  cases call with
  | tick now => exact absurd rfl (between now)
  | init data =>
    rw [perform, init]
    split
    · exact ⟨rfl, rfl, .refl⟩
    · rename_i loaded
      exact ⟨rfl, rfl, .single (.load admitted loaded)⟩
  | submit batch =>
    rw [perform, submit]
    split
    · exact runAll_quietly engine batch
    · exact ⟨rfl, rfl, .refl⟩
  | takeTurn place =>
    rw [perform]
    cases due : engine.due? place with
    | none =>
      rw [takeTurn_of_none due]
      exact .refl engine
    | some batch =>
      have called : Quietly engine { engine with waiting := engine.waiting.eraseIdx place } :=
        ⟨rfl, rfl, .refl⟩
      rw [(takeTurn_of_some due).1]
      exact called.trans (runAll_quietly _ batch)
  | destroy => exact ⟨rfl, rfl, .single .destroy⟩
  | registerOutlet => exact ⟨rfl, rfl, .refl⟩
  | takeEvents => exact ⟨rfl, rfl, .refl⟩
  | distance a b => exact ⟨rfl, rfl, .single (.distance _)⟩

/-- A tick of an engine is a tick of its state. -/
theorem tick_eq (engine : Engine W) (now : Int) :
    (engine.tick now).1.parameters = engine.parameters ∧
      (engine.tick now).1.state = (engine.state.tick engine.parameters engine.ids now).2.1 ∧
      (engine.tick now).1.ids = (engine.state.tick engine.parameters engine.ids now).2.2 := by
  rw [tick]
  split <;> rename_i ticked <;> rw [ticked] <;> exact ⟨rfl, rfl, rfl⟩

theorem tick_answer (engine : Engine W) (now : Int) : (engine.tick now).2 =
    (engine.state.tick engine.parameters engine.ids now).1.map TickOutcome.summary := by
  rw [tick]
  split <;> rename_i ticked <;> rw [ticked] <;> rfl

theorem exists_outcome {engine : Engine W} {now : Int} {summary : TickSummary}
    (ticked : (engine.tick now).2 = .ok summary) : ∃ outcome,
      (engine.state.tick engine.parameters engine.ids now).1 = .ok outcome ∧
        outcome.summary = summary := by
  rw [tick_answer] at ticked
  cases answer : (engine.state.tick engine.parameters engine.ids now).1 with
  | error cause =>
    rw [answer] at ticked
    contradiction
  | ok outcome =>
    rw [answer] at ticked
    exact ⟨outcome, rfl, Except.ok.inj ticked⟩

theorem Reachable.parameters_eq {engine : Engine W} (reached : Reachable parameters engine) :
    engine.parameters = parameters := by
  induction reached with
  | start => rfl
  | @perform engine _ call admitted ih =>
    cases call with
    | tick now => exact (tick_eq engine now).1.trans ih
    | _ => exact (perform_quietly engine admitted (by simp)).parameters_eq.trans ih

/-- What holds of the state of a new engine and is kept by quiet steps and ticks holds of the state
of every engine. -/
theorem Reachable.invariant {engine : Engine W} (reached : Reachable parameters engine)
    (Invariant : EngineState W → Prop) (fresh : Invariant (.fresh parameters))
    (quiet : ∀ state next, Invariant state → Quiet parameters state next → Invariant next)
    (tick : ∀ engine : Engine W, engine.parameters = parameters → Invariant engine.state →
      ∀ now, engine.DrawsFresh now → Invariant (engine.tick now).1.state) :
    Invariant engine.state := by
  induction reached with
  | start => exact fresh
  | @perform engine reached call admitted ih =>
    rw [← reached.parameters_eq] at quiet
    cases call with
    | tick now => exact tick engine reached.parameters_eq ih now admitted
    | _ => exact (perform_quietly engine admitted (by simp)).keeps Invariant quiet ih

/-- Calls lead to the call that comes after them. -/
theorem Reachable.before {engine : Engine W} (reached : Reachable parameters engine)
    {calls done : List (Call W)} {call : Call W} (admitted : engine.AdmitsAll calls)
    (next : done ++ [call] <+: calls) :
    Reachable parameters (engine.performAll done) ∧ (engine.performAll done).Admits call := by
  obtain ⟨rest, rfl⟩ := next
  rw [List.append_assoc, admitsAll_append] at admitted
  exact ⟨reached.performAll admitted.1, admitted.2.1⟩

/-- What holds at first, and is kept by calls that are not ticks that break it, holds all along a
run if no tick of the run breaks it as long as it holds. -/
theorem Reachable.holds_along {engine : Engine W} (reached : Reachable parameters engine)
    {calls : List (Call W)} (admitted : engine.AdmitsAll calls) (Holds : Engine W → Prop)
    (Breaks : Engine W → Int → Prop) (initially : Holds engine)
    (step : ∀ (engine : Engine W) (call : Call W), Reachable parameters engine →
      engine.Admits call → Holds engine → (∀ now, call = .tick now → ¬ Breaks engine now) →
        Holds (engine.perform call))
    (unbroken : ∀ done now, done ++ [.tick now] <+: calls → Holds (engine.performAll done) →
      ¬ Breaks (engine.performAll done) now) {done : List (Call W)} (next : done <+: calls) :
    Holds (engine.performAll done) := by
  induction done using List.reverseRecOn with
  | nil => exact initially
  | append_singleton done call ih =>
    obtain ⟨there, admits⟩ := reached.before admitted next
    have before := ih ((List.prefix_append done _).trans next)
    rw [performAll_append]
    refine step _ call there admits before ?_
    rintro now rfl
    exact unbroken done now next before

/-- What holds at first, and is kept by calls just when they are not ticks that break it, holds all
along a run just when no tick of the run breaks it. -/
theorem Reachable.holds_along_iff {engine : Engine W} (reached : Reachable parameters engine)
    {calls : List (Call W)} (admitted : engine.AdmitsAll calls) (Holds : Engine W → Prop)
    (Breaks : Engine W → Int → Prop) (initially : Holds engine)
    (step : ∀ (engine : Engine W) (call : Call W), Reachable parameters engine →
      engine.Admits call → Holds engine →
        (Holds (engine.perform call) ↔ ∀ now, call = .tick now → ¬ Breaks engine now)) :
    (∀ done, done <+: calls → Holds (engine.performAll done)) ↔
      ∀ done now, done ++ [.tick now] <+: calls → ¬ Breaks (engine.performAll done) now := by
  constructor
  · intro holds done now next
    obtain ⟨there, admits⟩ := reached.before admitted next
    have after := holds _ next
    rw [performAll_append] at after
    exact (step _ _ there admits (holds done ((List.prefix_append done _).trans next))).mp after
      now rfl
  · intro unbroken done next
    exact reached.holds_along admitted Holds Breaks initially
      (fun engine call there admits before => (step engine call there admits before).mpr)
      (fun done now next _ => unbroken done now next) next

end Engine

/-- Runs on whole numbers can be computed inside proofs. -/
instance : Weight Nat where
  zero := 0
  add := Nat.add
  lt := Nat.lt
  le := Nat.le
  decidableLT := Nat.decLt
  decidableLE := Nat.decLe
  usable _ := true
  noPath := 2147483647
  round := Int.ofNat

/-- The default policy on whole numbers. Alarms are as far apart as their times, in seconds, and
their vertices; each of them is a core point. -/
def Parameters.whole : Parameters Nat where
  weights := { parent := 1, peer := 2, relative := 5 }
  cacheCapacity := 16
  clearedLifetime := 300000
  problemLifetime := 7200000
  clusterer :=
    { density := { epsilon := 100, minPoints := 1 }
      measure := fun first second spatial => (first - second).natAbs / 1000 + spatial }
  rules := Rule.defaultOrder

namespace Engine

/-- A tick answers with a summary if the summary says whether it is skipped. -/
theorem exists_summary {engine : Engine Nat} {now : Int} {skipped : Bool}
    (answer : (engine.tick now).2.toOption.map TickSummary.skipped = some skipped) :
    ∃ summary, (engine.tick now).2 = .ok summary ∧ summary.skipped = skipped := by
  cases ticked : (engine.tick now).2 with
  | error cause =>
    rw [ticked] at answer
    contradiction
  | ok summary =>
    rw [ticked] at answer
    exact ⟨summary, rfl, Option.some.inj answer⟩

/-- An alarm on the node. -/
def nodeAlarm (id : String) : Alarm :=
  { id, time := 0, severity := .major, resource := some ⟨["node", "n1"]⟩, summary := none }

/-- A situation that shows given alarms. -/
def situationOf (id : String) (created : Int) (alarms : List Alarm) : Situation :=
  { Situation.new id created with
    alarms := alarms.foldl (fun map alarm => Std.ExtTreeMap.insert map alarm.id alarm) ∅ }

theorem situationOf_keyed (id : String) (created : Int) (alarms : List Alarm) :
    (situationOf id created alarms).alarms.IsKeyed := by
  suffices induct : ∀ map : AlarmMap, map.IsKeyed → AlarmMap.IsKeyed
      (alarms.foldl (fun map alarm => Std.ExtTreeMap.insert map alarm.id alarm) map) from
    induct ∅ .empty
  induction alarms with
  | nil => exact fun _ keyed => keyed
  | cons first rest ih => exact fun map keyed => ih _ (keyed.insert first)

/-- A situation that shows alarms on the node. -/
def nodeSituation (id : String) (created : Int) (alarms : List String) : Situation :=
  situationOf id created (alarms.map nodeAlarm)

theorem nodeSituation_keyed (id : String) (created : Int) (alarms : List String) :
    (nodeSituation id created alarms).alarms.IsKeyed :=
  situationOf_keyed id created (alarms.map nodeAlarm)

/-- An engine that starts from alarms on the node and from situations. -/
def nodeEngine (alarms : List String) (situations : List Situation) : Engine Nat :=
  (startWith .whole 1000 "node" .counting).perform
    (.init { alarms := alarms.map nodeAlarm, situations })

theorem nodeEngine_reachable (alarms : List String) {situations : List Situation}
    (keyed : ∀ situation ∈ situations, situation.alarms.IsKeyed) :
    Reachable .whole (nodeEngine alarms situations) :=
  (Reachable.start 1000 "node" .counting).perform (.init _) keyed

/-- The first tick of this engine merges its two situations. -/
def mergingEngine : Engine Nat :=
  nodeEngine ["a", "b", "c"] [nodeSituation "s" 0 ["a"], nodeSituation "t" 1 ["b"]]

theorem mergingEngine_reachable : Reachable .whole mergingEngine :=
  nodeEngine_reachable _ (by simp [nodeSituation_keyed])

theorem mergingEngine_fresh : mergingEngine.DrawsFresh 0 := by
  intro n lower upper
  have drawn : (mergingEngine.tick 0).1.ids.next = mergingEngine.ids.next := by decide +kernel
  omega

end Engine
end FaultCorrelation
