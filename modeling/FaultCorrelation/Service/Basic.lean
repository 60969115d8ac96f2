import FaultCorrelation.Engine.Basic
import FaultCorrelation.Service.Health
import FaultCorrelation.Service.Request

/-! # The correlation service

A `Service` runs an engine: it ticks it, reports its health, takes what the engine hands out and
answers requests. This module holds the service and what it does on its own account; requests are in
`Service.Serving`.

Work that has to wait for the barrier of the engine is answered when it takes its turn. The service
remembers for each waiting batch what it was sent for.
-/

namespace FaultCorrelation

/-- What a batch of callbacks was sent for. -/
inductive Purpose where
  | direct
  | ingestion
  | deletion
  deriving DecidableEq, Repr

/-- The answer to a batch of callbacks. -/
inductive Answer where
  | replies (replies : List Reply)
  | response (response : Response)

/-- The answer that the replies to a batch come to. A deletion succeeds if there was something to
delete. -/
def Purpose.answer : Purpose → List Reply → Answer
  | direct, replies => .replies replies
  | ingestion, _ => .response ⟨202, none⟩
  | deletion, replies => .response ⟨if .deleted true ∈ replies then 204 else 404, none⟩

/-- A running service. -/
structure Service where
  engine : Engine Float
  health : HealthRegistry := {}
  /-- The outlet that the service publishes from. -/
  outlet : Nat
  /-- What the waiting batches of the engine were sent for, in order. -/
  purposes : List Purpose := []

namespace Service

/-- The component that stands for the engine. -/
def engineComponent : String := "engine"

/-- The component that ticks the engine. -/
def tickComponent : String := "tick_loop"

/-- The component that evaluates the policy. -/
def policyComponent : String := "policy"

/-- A service around an engine, with all components registered. -/
def ofEngine (engine : Engine Float) : Service :=
  let (engine, outlet) := engine.registerOutlet
  let health : HealthRegistry := {}
  { engine, outlet
    health := ((health.register engineComponent).register tickComponent).register policyComponent }

/-- Send a batch of callbacks to the engine. There is no answer as long as it waits. -/
def submit (service : Service) (purpose : Purpose) (batch : List (Callback Float)) :
    Service × Option Answer :=
  let (engine, replies) := service.engine.submit batch
  match replies with
  | some replies => ({ service with engine }, some (purpose.answer replies))
  | none => ({ service with engine, purposes := service.purposes ++ [purpose] }, none)

/-- Let a batch that waits take its turn. There is no answer as long as the barrier is closed. -/
def takeTurn (service : Service) (place : Nat) : Service × Option Answer :=
  let (engine, replies) := service.engine.takeTurn place
  match service.purposes[place]?, replies with
  | some purpose, some replies =>
    ({ service with engine, purposes := service.purposes.eraseIdx place },
      some (purpose.answer replies))
  | _, _ => ({ service with engine }, none)

/-- Let every batch that waits take its turn, in order. -/
def takeTurns (service : Service) : Service × List Answer :=
  service.purposes.foldl (fun (service, answers) _ =>
    let (service, answer) := service.takeTurn 0
    (service, answers ++ answer.toList)) (service, [])

/-- Initialise the engine. -/
def init (service : Service) (data : InitialData Float) : Service × Except Fault Unit :=
  let (engine, result) := service.engine.init data
  ({ service with engine }, result)

/-- Destroy the engine. -/
def destroy (service : Service) : Service := { service with engine := service.engine.destroy }

/-- How the components are after a tick. A tick that the state of the engine does not allow may
succeed the next time; any other fault is the tick's own. -/
def healthAfterTick (health : HealthRegistry) (now : Int) :
    Except Fault TickSummary → HealthRegistry
  | .ok summary =>
    let health := { health with lastTick := some now }
    if summary.failures.isEmpty then
      (health.register tickComponent).register policyComponent
    else
      health.report policyComponent
        (.of .degraded (toString summary.failures.length ++ " rule(s) failed"))
  | .error (.state cause) =>
    health.report tickComponent (.of .degraded (Fault.state cause).message)
  | .error cause => health.report tickComponent (.of .unhealthy cause.message)

/-- Tick the engine and report on it. -/
def tick (service : Service) (now : Int) : Service × Option TickSummary :=
  let (engine, result) := service.engine.tick now
  ({ service with engine, health := healthAfterTick service.health now result }, result.toOption)

/-- Publish what the engine handed out, and take what it hands out next from a new outlet. The
events reported so far go with what is published. -/
def publish (service : Service) : Service × List Situation :=
  let (outlets, published) :=
    (service.engine.outlets.take? service.outlet).getD (service.engine.outlets, [])
  let engine := { service.engine with outlets := outlets.close service.outlet }
  let (engine, outlet) := engine.takeEvents.1.registerOutlet
  ({ service with engine, outlet }, published)

end Service
end FaultCorrelation
