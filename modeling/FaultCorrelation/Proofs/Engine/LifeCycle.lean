import Mathlib.Data.List.Perm.Basic
import FaultCorrelation.Proofs.Engine.Reliability

/-! # The life of an engine

An engine is uninitialized, then it runs, then it is destroyed, and it may be destroyed right away.
Its barrier opens as it leaves the first phase, whatever else is called. Until then batches of
callbacks wait. From then on each of them has one turn, which may come after any other calls, and
after the turns of batches that came later. If the engine runs by then the batch is carried out, and
if the engine is destroyed by then the batch is dropped. A destroyed engine holds nothing and never
will again.
-/

namespace FaultCorrelation

variable {W : Type} [Weight W]

/-- The phase that a call leads to. -/
def Call.phaseAfter (call : Call W) (phase : Phase) : Phase :=
  match call, phase with
  | .init _, .uninitialized => .initialized
  | .destroy, _ => .destroyed
  | _, _ => phase

/-- The batch of callbacks that a call submits. A batch without callbacks does not count. -/
def Call.batch? : Call W → Option (List (Callback W))
  | .submit (first :: rest) => some (first :: rest)
  | _ => none

/-- The batches of callbacks that calls submit, in order. -/
def submitted (calls : List (Call W)) : List (List (Callback W)) := calls.filterMap Call.batch?

omit [Weight W] in
theorem submitted_append (calls : List (Call W)) (call : Call W) :
    submitted (calls ++ [call]) = submitted calls ++ call.batch?.toList := by
  rw [submitted, List.filterMap_append]
  cases found : call.batch? <;> simp [submitted, found]

omit [Weight W] in
theorem submitted_append_of_none (calls : List (Call W)) {call : Call W}
    (nothing : call.batch? = none) : submitted (calls ++ [call]) = submitted calls := by
  rw [submitted_append, nothing]
  exact List.append_nil _

namespace EngineState

variable {parameters : Parameters W} {state : EngineState W}

omit [Weight W] in
/-- Whether a state is without vertices, edges, alarms, situations and memberships, and without
inputs that wait for a tick. -/
structure HoldsNothing (state : EngineState W) : Prop where
  vertices_eq : state.graph.vertices = ∅
  edges_eq : state.graph.edges = ∅
  alarmVertices_eq : state.alarmVertices = ∅
  ledger_eq : state.ledger = {}
  pendingFeedback_eq : state.pendingFeedback = []
  pendingCollected_eq : state.pendingCollected = []

/-- The state once callbacks have been answered in order. -/
def answerAll (state : EngineState W) (callbacks : List (Callback W)) : EngineState W :=
  callbacks.foldl (fun state callback => (state.answer callback).1) state

theorem answerAll_append (state : EngineState W) (first second : List (Callback W)) :
    state.answerAll (first ++ second) = (state.answerAll first).answerAll second :=
  List.foldl_append

omit [Weight W] in
theorem clock_tryAlarm (state : EngineState W) (alarm : Alarm) :
    (state.tryAlarm alarm).1.clock = state.clock := by
  rcases state.tryAlarm_cases alarm with ⟨_, same⟩ | ⟨_, _, _, _, _, _, same⟩ <;> rw [same]

theorem carryOut_frame (state : EngineState W) (callback : Callback W) :
    (state.carryOut callback).1.phase = state.phase ∧
      (state.carryOut callback).1.clock = state.clock := by
  cases callback with
  | alarm alarm => exact ⟨(state.tryAlarm_frame alarm).phase_eq, state.clock_tryAlarm alarm⟩
  | clear alarm =>
    exact ⟨(state.tryAlarm_frame alarm.clear).phase_eq, state.clock_tryAlarm alarm.clear⟩
  | _ => exact ⟨rfl, rfl⟩

theorem answerAll_frame (state : EngineState W) (callbacks : List (Callback W)) :
    (state.answerAll callbacks).phase = state.phase ∧
      (state.answerAll callbacks).clock = state.clock := by
  refine List.foldlRecOn callbacks _ (motive := fun (next : EngineState W) =>
    next.phase = state.phase ∧ next.clock = state.clock) ⟨rfl, rfl⟩ ?_
  intro before same callback _
  rw [answer]
  split
  · exact same
  · obtain ⟨phase, clock⟩ := before.carryOut_frame callback
    exact ⟨phase.trans same.1, clock.trans same.2⟩

/-- A running state carries callbacks out. -/
theorem answerAll_of_initialized (running : state.phase = .initialized)
    (callbacks : List (Callback W)) : state.answerAll callbacks =
      callbacks.foldl (fun state callback => (state.carryOut callback).1) state := by
  induction callbacks generalizing state with
  | nil => rfl
  | cons first rest ih =>
    have answered : (state.answer first).1 = (state.carryOut first).1 := by
      rw [answer, if_neg (by rw [running]; decide)]
    rw [answerAll, List.foldl_cons, answered, List.foldl_cons]
    exact ih ((state.carryOut_frame first).1.trans running)

/-- A destroyed state does not react to callbacks. -/
theorem answerAll_of_destroyed (destroyed : state.phase = .destroyed)
    (callbacks : List (Callback W)) : state.answerAll callbacks = state := by
  induction callbacks with
  | nil => rfl
  | cons first rest ih =>
    have ignored : (state.answer first).1 = state := by rw [answer, if_pos destroyed]
    rw [answerAll, List.foldl_cons, ignored]
    exact ih

omit [Weight W] in
theorem clock_tryAlarms (state : EngineState W) (alarms : List Alarm) :
    (state.tryAlarms alarms).1.clock = state.clock := by
  rw [tryAlarms_eq]
  exact List.foldlRecOn alarms _ (motive := fun (next : EngineState W) => next.clock = state.clock)
    rfl fun before same alarm _ => (before.clock_tryAlarm alarm).trans same

/-- Initial records can be loaded into a state that has none, and into no other. -/
theorem load_of_uninitialized (fresh : state.phase = .uninitialized) (data : InitialData W) :
    ∃ loaded counts, state.load data = .ok (loaded, counts) ∧ loaded.phase = .initialized ∧
      loaded.clock = state.clock := by
  cases loaded : state.load data with
  | error cause =>
    rw [load, fresh] at loaded
    contradiction
  | ok result =>
    obtain ⟨next, counts⟩ := result
    obtain ⟨_, rfl⟩ := load_spec loaded
    exact ⟨_, counts, rfl, rfl, clock_tryAlarms _ data.alarms⟩

theorem load_of_initialized (running : state.phase = .initialized) (data : InitialData W) :
    state.load data = .error (.state .alreadyInitialized) := by
  rw [load, running]

theorem load_of_destroyed (destroyed : state.phase = .destroyed) (data : InitialData W) :
    state.load data = .error (.state .destroyed) := by
  rw [load, destroyed]

omit [Weight W] in
theorem destroy_frame (parameters : Parameters W) (state : EngineState W) :
    (state.destroy parameters).phase = .destroyed ∧
      (state.destroy parameters).clock = state.clock := by
  rw [destroy]
  split
  · rename_i destroyed
    exact ⟨destroyed, rfl⟩
  · exact ⟨rfl, rfl⟩

omit [Weight W] in
theorem HoldsNothing.destroy (nothing : state.phase = .destroyed → state.HoldsNothing)
    (parameters : Parameters W) : (state.destroy parameters).HoldsNothing := by
  rw [EngineState.destroy]
  split
  · rename_i destroyed
    exact nothing destroyed
  · exact ⟨rfl, rfl, rfl, rfl, rfl, rfl⟩

omit [Weight W] in
theorem clock_beginTick (parameters : Parameters W) (state : EngineState W) (now : Int) :
    (state.beginTick parameters now).1.clock = now := by
  rw [beginTick, collectGarbage]
  refine List.foldlRecOn _ _ (motive := fun (before : EngineState W × List Alarm) =>
    before.1.clock = now) rfl ?_
  rintro ⟨before, collected⟩ same located _
  dsimp only
  rw [collectAlarm]
  split <;> exact same

/-- A tick that is not refused sets the clock. -/
theorem clock_tick (parameters : Parameters W) (state : EngineState W) (ids : IdSource)
    (now : Int) : (state.tick parameters ids now).2.1.clock =
      if state.phase = .initialized ∧ state.clock ≤ now then now else state.clock := by
  have begun := clock_beginTick parameters state now
  have outcome := tick_cases parameters state ids now
  generalize (state.beginTick parameters now).1 = next at begun outcome
  rcases outcome with ⟨_, checked, refused⟩ |
    ⟨checked, idle | ⟨summary, collected, feedback, _, rfl, _, _, _, busy⟩⟩
  · have unready : ¬ (state.phase = .initialized ∧ state.clock ≤ now) := by
      rw [← checkTick_eq_ok, checked]
      exact nofun
    rw [refused, if_neg unready]
  · rw [idle, if_pos (checkTick_eq_ok.mp checked)]
    exact begun
  · rw [busy, if_pos (checkTick_eq_ok.mp checked)]
    have kept := (correlate_frame parameters { next with pendingFeedback := [] } ids summary
      collected feedback).2.2
    exact kept.trans begun

end EngineState

namespace Engine

variable {parameters : Parameters W} {engine after : Engine W}

/-- What running callbacks does to an engine, as far as its barrier can tell. -/
structure Ran (engine : Engine W) (callbacks : List (Callback W)) (after : Engine W) : Prop where
  state_eq : after.state = engine.state.answerAll callbacks
  isOpen_eq : after.isOpen = engine.isOpen
  waiting_eq : after.waiting = engine.waiting

theorem Ran.append {next : Engine W} {first second : List (Callback W)}
    (one : Ran engine first next) (two : Ran next second after) :
    Ran engine (first ++ second) after where
  state_eq := by rw [two.state_eq, one.state_eq, EngineState.answerAll_append]
  isOpen_eq := two.isOpen_eq.trans one.isOpen_eq
  waiting_eq := two.waiting_eq.trans one.waiting_eq

theorem run_ran (engine : Engine W) (callback : Callback W) :
    Ran engine [callback] (engine.run callback).1 := by
  cases callback with
  | deleteSituation id =>
    simp only [run]
    split <;> exact ⟨rfl, rfl, rfl⟩
  | _ => exact ⟨rfl, rfl, rfl⟩

/-- Every callback is answered. -/
theorem runAll_ran (engine : Engine W) (batch : List (Callback W)) :
    Ran engine batch (engine.runAll batch).1 ∧
      (engine.runAll batch).2.length = batch.length := by
  induction batch generalizing engine with
  | nil => exact ⟨⟨rfl, rfl, rfl⟩, rfl⟩
  | cons first rest ih =>
    obtain ⟨ran, answered⟩ := ih (engine.run first).1
    exact ⟨(run_ran engine first).append ran, congrArg Nat.succ answered⟩

/-- What opening the barrier on a given state leads to. The batches that have waited still wait. -/
structure Opened (engine : Engine W) (state : EngineState W) (after : Engine W) : Prop where
  state_eq : after.state = state
  isOpen : after.isOpen
  waiting_eq : after.waiting = engine.waiting

theorem init_of_ok {data : InitialData W} {loaded : EngineState W} {counts : InitialCounts}
    (taken : engine.state.load data = .ok (loaded, counts)) :
    (engine.init data).2 = .ok () ∧ Opened engine loaded (engine.init data).1 := by
  rw [init, taken]
  exact ⟨rfl, rfl, rfl, rfl⟩

theorem init_of_error {data : InitialData W} {fault : Fault}
    (refused : engine.state.load data = .error fault) :
    (engine.init data).2 = .error fault ∧
      Opened engine engine.state (engine.init data).1 := by
  rw [init, refused]
  exact ⟨rfl, rfl, rfl, rfl⟩

/-- However it answers, an initialization opens the barrier, on a state that has been loaded or else
was there before. -/
theorem init_opened (engine : Engine W) (data : InitialData W) :
    ∃ state, Opened engine state (engine.init data).1 ∧
      state.phase = (Call.init data).phaseAfter engine.state.phase ∧
      state.clock = engine.state.clock ∧
      (state.phase ≠ .initialized → state = engine.state) := by
  cases phase : engine.state.phase with
  | uninitialized =>
    obtain ⟨loaded, counts, taken, running, clock⟩ := EngineState.load_of_uninitialized phase data
    exact ⟨loaded, (init_of_ok taken).2, running, clock, fun stopped => absurd running stopped⟩
  | initialized =>
    obtain ⟨_, opened⟩ := init_of_error (EngineState.load_of_initialized phase data)
    exact ⟨engine.state, opened, phase, rfl, fun _ => rfl⟩
  | destroyed =>
    obtain ⟨_, opened⟩ := init_of_error (EngineState.load_of_destroyed phase data)
    exact ⟨engine.state, opened, phase, rfl, fun _ => rfl⟩

omit [Weight W] in
theorem destroy_opened (engine : Engine W) :
    Opened engine (engine.state.destroy engine.parameters) engine.destroy :=
  ⟨rfl, rfl, rfl⟩

/-- A batch runs if the barrier is open or it is empty, and waits otherwise. -/
theorem submit_cases (engine : Engine W) (batch : List (Callback W)) :
    (engine.isOpen ∨ batch = []) ∧ Ran engine batch (engine.submit batch).1 ∧
        (engine.submit batch).2.map List.length = some batch.length ∨
      ¬ engine.isOpen ∧ batch ≠ [] ∧
        engine.submit batch = ({ engine with waiting := engine.waiting ++ [batch] }, none) := by
  have decided : (engine.isOpen || batch.isEmpty) = true ↔ engine.isOpen ∨ batch = [] := by
    rw [Bool.or_eq_true, List.isEmpty_iff]
  rw [submit]
  split
  · rename_i ready
    obtain ⟨ran, answered⟩ := runAll_ran engine batch
    exact .inl ⟨decided.mp ready, ran, congrArg some answered⟩
  · rename_i unready
    obtain ⟨closed, nonempty⟩ := not_or.mp (decided.not.mp unready)
    exact .inr ⟨closed, nonempty, rfl⟩

/-- A batch that takes its turn waits no more, and all its callbacks are answered. -/
theorem takeTurn_ran {place : Nat} {batch : List (Callback W)}
    (due : engine.due? place = some batch) :
    Ran { engine with waiting := engine.waiting.eraseIdx place } batch
        (engine.takeTurn place).1 ∧
      (engine.takeTurn place).2.map List.length = some batch.length := by
  obtain ⟨after, replies⟩ := takeTurn_of_some due
  obtain ⟨ran, answered⟩ :=
    runAll_ran { engine with waiting := engine.waiting.eraseIdx place } batch
  rw [after, replies]
  exact ⟨ran, congrArg some answered⟩

theorem tick_of_refused {now : Int} {fault : Fault}
    (refused : engine.state.checkTick now = .error fault) :
    engine.tick now = (engine, .error fault) := by
  rw [tick, EngineState.tick, refused]

theorem tick_frame (engine : Engine W) (now : Int) :
    (engine.tick now).1.isOpen = engine.isOpen ∧
      (engine.tick now).1.waiting = engine.waiting := by
  rw [tick]
  split <;> exact ⟨rfl, rfl⟩

/-- What a call does to the phase and to the clock. -/
structure Ages (engine : Engine W) (call : Call W) : Prop where
  phase_eq : (engine.perform call).state.phase = call.phaseAfter engine.state.phase
  clock_le : engine.state.clock ≤ (engine.perform call).state.clock
  clock_eq : (∀ now, call ≠ .tick now) → (engine.perform call).state.clock = engine.state.clock

/-- A call that leaves the clock alone. -/
theorem Ages.still {call : Call W}
    (phase : (engine.perform call).state.phase = call.phaseAfter engine.state.phase)
    (clock : (engine.perform call).state.clock = engine.state.clock) : engine.Ages call :=
  ⟨phase, Int.le_of_eq clock.symm, fun _ => clock⟩

theorem perform_ages (engine : Engine W) (call : Call W) : engine.Ages call := by
  cases call with
  | init data =>
    obtain ⟨_, opened, phase, clock, _⟩ := init_opened engine data
    exact .still ((congrArg _ opened.state_eq).trans phase)
      ((congrArg _ opened.state_eq).trans clock)
  | submit batch =>
    rcases submit_cases engine batch with ⟨_, ran, _⟩ | ⟨_, _, waits⟩
    · obtain ⟨phase, clock⟩ := engine.state.answerAll_frame batch
      exact .still ((congrArg _ ran.state_eq).trans phase) ((congrArg _ ran.state_eq).trans clock)
    · rw [← Prod.eta (engine.submit batch), Prod.mk.injEq] at waits
      exact .still (congrArg (fun next => next.state.phase) waits.1)
        (congrArg (fun next => next.state.clock) waits.1)
  | takeTurn place =>
    cases due : engine.due? place with
    | none =>
      have idle : engine.perform (.takeTurn place) = engine := by
        rw [perform, takeTurn_of_none due]
      exact .still (congrArg (fun next => next.state.phase) idle)
        (congrArg (fun next => next.state.clock) idle)
    | some batch =>
      obtain ⟨phase, clock⟩ := engine.state.answerAll_frame batch
      have same := (takeTurn_ran due).1.state_eq
      exact .still ((congrArg _ same).trans phase) ((congrArg _ same).trans clock)
  | tick now =>
    have clock : (engine.tick now).1.state.clock =
        if engine.state.phase = .initialized ∧ engine.state.clock ≤ now then now
        else engine.state.clock := by
      rw [(tick_eq engine now).2.1, EngineState.clock_tick]
    refine ⟨phase_tick engine now, ?_, fun between => absurd rfl (between now)⟩
    rw [perform, clock]
    split
    · rename_i admitted
      exact admitted.2
    · exact Int.le_refl _
  | destroy =>
    obtain ⟨phase, clock⟩ := engine.state.destroy_frame engine.parameters
    exact .still phase clock
  | _ => exact .still rfl rfl

/-- What an engine is like after calls, as its phase has it. -/
structure FollowsPhase (engine : Engine W) (calls : List (Call W)) : Prop where
  isOpen_iff : engine.isOpen ↔ engine.state.phase ≠ .uninitialized
  waiting_eq : engine.state.phase = .uninitialized → engine.waiting = submitted calls
  holdsNothing : engine.state.phase ≠ .initialized → engine.state.HoldsNothing

omit [Weight W] in
theorem followsPhase_start (parameters : Parameters W) (tickResolution : Int)
    (instanceName : String) (ids : IdSource) :
    (startWith parameters tickResolution instanceName ids).FollowsPhase [] where
  isOpen_iff := iff_of_false nofun fun left => left rfl
  waiting_eq _ := rfl
  holdsNothing _ := ⟨rfl, rfl, rfl, rfl, rfl, rfl⟩

omit [Weight W] in
/-- An engine whose barrier opens on a state that has left the first phase. -/
theorem Opened.followsPhase {state : EngineState W} (opened : Opened engine state after)
    (left : state.phase ≠ .uninitialized)
    (nothing : state.phase ≠ .initialized → state.HoldsNothing) (calls : List (Call W)) :
    after.FollowsPhase calls := by
  obtain ⟨rfl, isOpen, _⟩ := opened
  exact ⟨iff_of_true isOpen left, fun fresh => absurd fresh left, nothing⟩

/-- Callbacks that are answered on an engine whose barrier is open. -/
theorem Ran.followsPhase {callbacks : List (Callback W)} (ran : Ran engine callbacks after)
    (isOpen : engine.isOpen) (left : engine.state.phase ≠ .uninitialized)
    (nothing : engine.state.phase ≠ .initialized → engine.state.HoldsNothing)
    (calls : List (Call W)) : after.FollowsPhase calls := by
  have phase : after.state.phase = engine.state.phase :=
    (congrArg _ ran.state_eq).trans (engine.state.answerAll_frame callbacks).1
  refine ⟨?_, fun fresh => absurd (phase.symm.trans fresh) left, fun stopped => ?_⟩
  · rw [ran.isOpen_eq, phase]
    exact iff_of_true isOpen left
  · rw [phase] at stopped
    have destroyed : engine.state.phase = .destroyed := by
      cases reached : engine.state.phase with
      | uninitialized => exact absurd reached left
      | initialized => exact absurd reached stopped
      | destroyed => rfl
    rw [ran.state_eq, EngineState.answerAll_of_destroyed destroyed]
    exact nothing stopped

namespace FollowsPhase

variable {calls : List (Call W)} (follows : engine.FollowsPhase calls)
include follows

omit [Weight W] in
/-- A call that submits no batch and leaves phase, barrier and tables alone. -/
theorem still {call : Call W} (nothing : call.batch? = none)
    (isOpen : after.isOpen = engine.isOpen) (waiting : after.waiting = engine.waiting)
    (phase : after.state.phase = engine.state.phase)
    (holds : engine.state.phase ≠ .initialized → after.state.HoldsNothing) :
    after.FollowsPhase (calls ++ [call]) := by
  refine ⟨?_, fun fresh => ?_, fun stopped => holds (phase ▸ stopped)⟩
  · rw [isOpen, phase]
    exact follows.isOpen_iff
  · rw [waiting, submitted_append_of_none calls nothing]
    exact follows.waiting_eq (phase.symm.trans fresh)

theorem init (data : InitialData W) (later : List (Call W)) :
    (engine.init data).1.FollowsPhase later := by
  obtain ⟨state, opened, phase, _, same⟩ := init_opened engine data
  refine opened.followsPhase ?_ (fun stopped => ?_) later
  · rw [phase]
    cases engine.state.phase <;> exact nofun
  · obtain rfl := same stopped
    exact follows.holdsNothing stopped

omit [Weight W] in
theorem destroy (later : List (Call W)) : engine.destroy.FollowsPhase later := by
  obtain ⟨phase, _⟩ := engine.state.destroy_frame engine.parameters
  refine (destroy_opened engine).followsPhase (by rw [phase]; decide) (fun _ => ?_) later
  refine .destroy (fun destroyed => follows.holdsNothing ?_) engine.parameters
  rw [destroyed]
  decide

theorem submit (batch : List (Callback W)) :
    (engine.submit batch).1.FollowsPhase (calls ++ [.submit batch]) := by
  rcases submit_cases engine batch with ⟨isOpen | rfl, ran, _⟩ | ⟨closed, nonempty, waits⟩
  · exact ran.followsPhase isOpen (follows.isOpen_iff.mp isOpen) follows.holdsNothing _
  · exact follows.still rfl ran.isOpen_eq ran.waiting_eq (congrArg _ ran.state_eq)
      (ran.state_eq ▸ follows.holdsNothing)
  · rw [waits]
    refine ⟨follows.isOpen_iff, fun fresh => ?_, follows.holdsNothing⟩
    rw [submitted_append, follows.waiting_eq fresh]
    cases batch with
    | nil => exact absurd rfl nonempty
    | cons first rest => rfl

theorem takeTurn (place : Nat) :
    (engine.takeTurn place).1.FollowsPhase (calls ++ [.takeTurn place]) := by
  cases due : engine.due? place with
  | none =>
    rw [takeTurn_of_none due]
    exact follows.still rfl rfl rfl rfl follows.holdsNothing
  | some batch =>
    have isOpen := (due?_eq_some.mp due).1
    exact (takeTurn_ran due).1.followsPhase isOpen (follows.isOpen_iff.mp isOpen)
      follows.holdsNothing _

theorem tick (now : Int) : (engine.tick now).1.FollowsPhase (calls ++ [.tick now]) := by
  obtain ⟨isOpen, waiting⟩ := tick_frame engine now
  refine follows.still rfl isOpen waiting (phase_tick engine now) fun stopped => ?_
  cases checked : engine.state.checkTick now with
  | error fault =>
    rw [tick_of_refused checked]
    exact follows.holdsNothing stopped
  | ok granted => exact absurd (EngineState.checkTick_eq_ok.mp checked).1 stopped

/-- What calls before led to, a further call goes on from. -/
theorem perform (call : Call W) : (engine.perform call).FollowsPhase (calls ++ [call]) := by
  cases call with
  | init data => exact follows.init data _
  | submit batch => exact follows.submit batch
  | takeTurn place => exact follows.takeTurn place
  | tick now => exact follows.tick now
  | destroy => exact follows.destroy _
  | distance a b =>
    refine follows.still rfl rfl rfl rfl fun stopped => ?_
    obtain ⟨vertices, edges, alarms, ledger, feedback, collected⟩ := follows.holdsNothing stopped
    exact ⟨vertices, edges, alarms, ledger, feedback, collected⟩
  | _ => exact follows.still rfl rfl rfl rfl follows.holdsNothing

end FollowsPhase

theorem followsPhase_performAll (parameters : Parameters W) (tickResolution : Int)
    (instanceName : String) (ids : IdSource) (calls : List (Call W)) :
    ((startWith parameters tickResolution instanceName ids).performAll calls).FollowsPhase
      calls := by
  induction calls using List.reverseRecOn with
  | nil => exact followsPhase_start parameters tickResolution instanceName ids
  | append_singleton done call ih =>
    rw [performAll_append]
    exact ih.perform call

/-- The batch that a call makes wait. -/
def holding? (engine : Engine W) (call : Call W) : Option (List (Callback W)) :=
  if engine.isOpen then none else call.batch?

/-- The batch that takes its turn in a call. -/
def turn? (engine : Engine W) : Call W → Option (List (Callback W))
  | .takeTurn place => engine.due? place
  | _ => none

/-- What calls made in order come with, each looked at on the engine that it meets. -/
def along {α : Type} (look : Engine W → Call W → Option α) (engine : Engine W) :
    List (Call W) → List α
  | [] => []
  | call :: rest => (look engine call).toList ++ (engine.perform call).along look rest

/-- The batches that calls make wait, in order. -/
def heldBack (engine : Engine W) (calls : List (Call W)) : List (List (Callback W)) :=
  engine.along holding? calls

/-- The batches that take their turns in calls, in order. -/
def turns (engine : Engine W) (calls : List (Call W)) : List (List (Callback W)) :=
  engine.along turn? calls

omit [Weight W] in
theorem holding?_of_none {call : Call W} (nothing : call.batch? = none) :
    engine.holding? call = none := by
  rw [holding?, nothing, ite_self]

/-- A batch that has come to wait still waits, or has its turn. -/
theorem waiting_perform (engine : Engine W) (call : Call W) :
    (engine.waiting ++ (engine.holding? call).toList).Perm
      ((engine.turn? call).toList ++ (engine.perform call).waiting) := by
  have idle {call : Call W} (nothing : call.batch? = none) (none : engine.turn? call = none)
      (same : (engine.perform call).waiting = engine.waiting) :
      (engine.waiting ++ (engine.holding? call).toList).Perm
        ((engine.turn? call).toList ++ (engine.perform call).waiting) := by
    rw [holding?_of_none nothing, none, same]
    exact .of_eq (List.append_nil _)
  cases call with
  | init data =>
    obtain ⟨_, opened, _⟩ := init_opened engine data
    exact idle rfl rfl opened.waiting_eq
  | submit batch =>
    rcases submit_cases engine batch with ⟨isOpen | rfl, ran, _⟩ | ⟨closed, nonempty, waits⟩
    · rw [holding?, if_pos isOpen, perform, ran.waiting_eq]
      exact .of_eq (List.append_nil _)
    · exact idle rfl rfl ran.waiting_eq
    · have held : engine.holding? (.submit batch) = some batch := by
        rw [holding?, if_neg closed]
        cases batch with
        | nil => exact absurd rfl nonempty
        | cons first rest => rfl
      rw [held, perform, waits]
      exact .refl _
  | takeTurn place =>
    cases due : engine.due? place with
    | none =>
      refine idle rfl due ?_
      rw [perform, takeTurn_of_none due]
    | some batch =>
      obtain ⟨inside, rfl⟩ := List.getElem?_eq_some_iff.mp (due?_eq_some.mp due).2
      rw [holding?_of_none rfl, turn?, due, perform, (takeTurn_ran due).1.waiting_eq,
        Option.toList_none, List.append_nil]
      exact (List.getElem_cons_eraseIdx_perm inside).symm
  | tick now => exact idle rfl rfl (tick_frame engine now).2
  | _ => exact idle rfl rfl rfl

/-- Each batch that calls make wait either waits when they are done or has had its turn, once. -/
theorem waiting_performAll (engine : Engine W) (calls : List (Call W)) :
    (engine.waiting ++ engine.heldBack calls).Perm
      (engine.turns calls ++ (engine.performAll calls).waiting) := by
  induction calls generalizing engine with
  | nil => exact .of_eq (List.append_nil _)
  | cons call rest ih =>
    have first := waiting_perform engine call
    calc engine.waiting ++ engine.heldBack (call :: rest)
      _ = engine.waiting ++ (engine.holding? call).toList ++ (engine.perform call).heldBack rest :=
        (List.append_assoc ..).symm
      List.Perm _ ((engine.turn? call).toList ++ (engine.perform call).waiting ++
          (engine.perform call).heldBack rest) := first.append_right _
      _ = (engine.turn? call).toList ++
          ((engine.perform call).waiting ++ (engine.perform call).heldBack rest) :=
        List.append_assoc ..
      List.Perm _ ((engine.turn? call).toList ++
          ((engine.perform call).turns rest ++ (engine.performAll (call :: rest)).waiting)) :=
        (ih (engine.perform call)).append_left _
      _ = engine.turns (call :: rest) ++ (engine.performAll (call :: rest)).waiting :=
        (List.append_assoc ..).symm

/-- What the turn of a batch that waits comes to. -/
structure TakesTurn (engine : Engine W) (place : Nat) (batch : List (Callback W)) : Prop where
  waiting_eq : (engine.takeTurn place).1.waiting = engine.waiting.eraseIdx place
  answered : (engine.takeTurn place).2.map List.length = some batch.length
  carriedOut : engine.state.phase = .initialized → (engine.takeTurn place).1.state =
    batch.foldl (fun state callback => (state.carryOut callback).1) engine.state
  dropped : engine.state.phase = .destroyed → (engine.takeTurn place).1.state = engine.state

theorem takesTurn (isOpen : engine.isOpen) {place : Nat} {batch : List (Callback W)}
    (waits : engine.waiting[place]? = some batch) : engine.TakesTurn place batch := by
  obtain ⟨ran, answered⟩ := takeTurn_ran (due?_eq_some.mpr ⟨isOpen, waits⟩)
  refine ⟨ran.waiting_eq, answered, fun running => ?_, fun destroyed => ?_⟩
  · rw [ran.state_eq]
    exact EngineState.answerAll_of_initialized running batch
  · rw [ran.state_eq]
    exact EngineState.answerAll_of_destroyed destroyed batch

/-- If nothing comes between, the batches that wait take their turns in the order in which they
came. -/
theorem takeTurns_spec (engine : Engine W) (isOpen : engine.isOpen) :
    engine.takeTurns.1 = engine.performAll (engine.waiting.map fun _ => .takeTurn 0) ∧
      engine.takeTurns.1.waiting = [] ∧
      engine.takeTurns.1.state = engine.state.answerAll engine.waiting.flatten ∧
      engine.takeTurns.2.map List.length = engine.waiting.map List.length := by
  have none : engine.waiting.map List.length =
      ([] : List (List Reply)).map List.length ++ engine.waiting.map List.length := rfl
  rw [takeTurns, none]
  clear none
  generalize same : engine.waiting = waiting
  generalize ([] : List (List Reply)) = answered
  induction waiting generalizing engine answered with
  | nil => exact ⟨rfl, same, rfl, (List.append_nil _).symm⟩
  | cons batch rest ih =>
    have due : engine.due? 0 = some batch :=
      due?_eq_some.mpr ⟨isOpen, by rw [same, List.getElem?_cons_zero]⟩
    obtain ⟨ran, replied⟩ := takeTurn_ran due
    have left : (engine.takeTurn 0).1.waiting = rest := by
      rw [ran.waiting_eq]
      exact congrArg (·.eraseIdx 0) same
    obtain ⟨calls, waiting, state, replies⟩ := ih (engine.takeTurn 0).1
      (ran.isOpen_eq.trans isOpen) left (answered ++ (engine.takeTurn 0).2.toList)
    refine ⟨calls, waiting, ?_, ?_⟩
    · rw [List.foldl_cons]
      refine state.trans ?_
      rw [ran.state_eq, List.flatten_cons, EngineState.answerAll_append]
    · rw [List.foldl_cons]
      refine replies.trans ?_
      obtain ⟨told, answer, length⟩ := Option.map_eq_some_iff.mp replied
      rw [answer, List.map_append, List.map_cons, ← length]
      exact List.append_assoc ..

/-- What holding batches of callbacks back amounts to: a batch that is submitted joins those that
wait, none gets its turn, and the call that opens the barrier runs none of them. -/
structure HoldsBack (engine : Engine W) : Prop where
  submit_eq : ∀ batch ≠ [],
    engine.submit batch = ({ engine with waiting := engine.waiting ++ [batch] }, none)
  takeTurn_eq : ∀ place, engine.takeTurn place = (engine, none)
  init : ∀ data, ∃ loaded counts, engine.state.load data = .ok (loaded, counts) ∧
    loaded.phase = .initialized ∧ (engine.init data).2 = .ok () ∧
    Opened engine loaded (engine.init data).1
  destroy : (engine.state.destroy engine.parameters).phase = .destroyed ∧
    Opened engine (engine.state.destroy engine.parameters) engine.destroy

theorem FollowsPhase.holdsBack {calls : List (Call W)} (follows : engine.FollowsPhase calls)
    (fresh : engine.state.phase = .uninitialized) : engine.HoldsBack := by
  have closed : ¬ engine.isOpen := fun isOpen => follows.isOpen_iff.mp isOpen fresh
  refine ⟨fun batch nonempty => ?_, fun place => takeTurn_of_none (if_neg closed),
    fun data => ?_, (engine.state.destroy_frame engine.parameters).1, destroy_opened engine⟩
  · rcases submit_cases engine batch with ⟨ready, _⟩ | ⟨_, _, waits⟩
    · exact absurd (ready.resolve_right nonempty) closed
    · exact waits
  · obtain ⟨loaded, counts, taken, running, _⟩ := EngineState.load_of_uninitialized fresh data
    exact ⟨loaded, counts, taken, running, init_of_ok taken⟩

/-- What letting batches of callbacks in amounts to: a batch that is submitted is answered at once,
and each of those that wait can have its turn. -/
structure LetsIn (engine : Engine W) : Prop where
  submit : ∀ batch, Ran engine batch (engine.submit batch).1 ∧
    (engine.submit batch).2.map List.length = some batch.length
  takesTurn : ∀ place batch, engine.waiting[place]? = some batch → engine.TakesTurn place batch

theorem FollowsPhase.letsIn {calls : List (Call W)} (follows : engine.FollowsPhase calls)
    (left : engine.state.phase ≠ .uninitialized) : engine.LetsIn := by
  have isOpen := follows.isOpen_iff.mpr left
  refine ⟨fun batch => ?_, fun _ _ => takesTurn isOpen⟩
  rcases submit_cases engine batch with ⟨_, ran⟩ | ⟨closed, _⟩
  · exact ran
  · exact absurd isOpen closed

/-- What a destroyed engine comes to. -/
structure IsOver (engine : Engine W) : Prop where
  phase_eq : engine.state.phase = .destroyed
  holdsNothing : engine.state.HoldsNothing
  tick_eq : ∀ now, engine.tick now = (engine, .error (.state .tickAfterDestroy))
  init_eq : ∀ data, (engine.init data).2 = .error (.state .destroyed)

theorem FollowsPhase.isOver {calls : List (Call W)} (follows : engine.FollowsPhase calls)
    (destroyed : engine.state.phase = .destroyed) : engine.IsOver where
  phase_eq := destroyed
  holdsNothing := follows.holdsNothing (by rw [destroyed]; decide)
  tick_eq now := tick_of_refused (by rw [EngineState.checkTick, destroyed])
  init_eq data := (init_of_error (EngineState.load_of_destroyed destroyed data)).1

theorem performAll_of_destroyed (destroyed : engine.state.phase = .destroyed)
    (calls : List (Call W)) : (engine.performAll calls).state.phase = .destroyed := by
  refine List.foldlRecOn calls perform (motive := fun (next : Engine W) =>
    next.state.phase = .destroyed) destroyed ?_
  intro before same call _
  rw [(perform_ages before call).phase_eq, same]
  cases call <;> rfl

/-- The life of an engine, whatever is called and in whichever order. A call moves the phase ahead
or leaves it, and only a tick moves the clock. The barrier is open from the moment the first phase
is left. Until then callbacks wait; none of them is lost, and each has one turn, at whichever later
call that is. It is carried out if the engine runs by then, on a state that came from the initial
records, and dropped if the engine is destroyed by then. A destroyed engine stays empty and refuses
to tick or to start. -/
theorem life_cycle (parameters : Parameters W) (tickResolution : Int) (instanceName : String)
    (ids : IdSource) (calls : List (Call W)) :
    let begun := startWith parameters tickResolution instanceName ids
    let engine := begun.performAll calls
    (∀ call, engine.Ages call) ∧ engine.FollowsPhase calls ∧
      (engine.state.phase = .uninitialized → engine.HoldsBack) ∧
      (engine.state.phase ≠ .uninitialized → engine.LetsIn) ∧
      (begun.heldBack calls).Perm (begun.turns calls ++ engine.waiting) ∧
      (engine.state.phase = .destroyed → ∀ later, (engine.performAll later).IsOver) := by
  intro begun engine
  have follows : engine.FollowsPhase calls :=
    followsPhase_performAll parameters tickResolution instanceName ids calls
  refine ⟨engine.perform_ages, follows, follows.holdsBack, follows.letsIn,
    waiting_performAll begun calls, fun destroyed later => ?_⟩
  have further : (engine.performAll later).FollowsPhase (calls ++ later) := by
    have whole := followsPhase_performAll parameters tickResolution instanceName ids
      (calls ++ later)
    rwa [performAll_append] at whole
  exact further.isOver (performAll_of_destroyed destroyed later)

/-- Whether an alarm that is submitted before the barrier opens is lost if it has its turn behind
given calls: it waits no more, and no state on the way has held it. -/
def LosesWaiting (between : List (Call Nat)) : Prop :=
  let begun := startWith .whole 1000 "node" .counting
  let calls := .submit [.alarm (nodeAlarm "a")] :: between ++ [.takeTurn 0]
  (begun.heldBack calls).length = 1 ∧ (begun.turns calls).length = 1 ∧
    (begun.performAll calls).waiting.length = 0 ∧
    ∀ done ∈ calls.inits, (begun.performAll done).state.graph.alarmCount = 0

/-- The engine may be destroyed before a waiting alarm has its turn, be it that the barrier opens by
this or that the initial records were in already. -/
theorem waiting_alarm_dropped : LosesWaiting [.destroy] ∧ LosesWaiting [.init {}, .destroy] := by
  unfold LosesWaiting
  decide +kernel

end Engine
end FaultCorrelation
