import FaultCorrelation.Json.Decoding

/-! # Health of the service

The components of the service report how they are. The registry keeps the last report of each, and
tells from all of them how the service is and whether it is ready for traffic.
-/

namespace FaultCorrelation

/-- How a component is. -/
inductive HealthStatus where
  | healthy
  /-- Working, with faults worth a look. -/
  | degraded
  | unhealthy
  deriving DecidableEq, Repr

namespace HealthStatus

/-- The word a status is written as. -/
def word : HealthStatus → String
  | healthy => "healthy"
  | degraded => "degraded"
  | unhealthy => "unhealthy"

/-- All statuses, the best first. -/
def all : List HealthStatus := [healthy, degraded, unhealthy]

/-- The worse of two statuses. -/
def worse : HealthStatus → HealthStatus → HealthStatus
  | unhealthy, _ | _, unhealthy => unhealthy
  | degraded, _ | _, degraded => degraded
  | healthy, healthy => healthy

/-- Read a status from its word. -/
def decode {γ : Type} : Decoder γ HealthStatus := Decoder.word (all.map fun s => (s.word, s))

end HealthStatus

/-- The report of a component. -/
structure ComponentHealth where
  status : HealthStatus
  message : Option String
  deriving DecidableEq, Repr

namespace ComponentHealth

/-- The report that all is well. -/
def healthy : ComponentHealth := ⟨.healthy, none⟩

/-- A report with a message; where all is well there is nothing to say. -/
def of (status : HealthStatus) (message : String) : ComponentHealth :=
  ⟨status, if status = .healthy then none else some message⟩

/-- A message is written only if there is one. -/
def toJson (health : ComponentHealth) : Json :=
  .record (("status", .text health.status.word) ::
    (health.message.map fun message => ("message", .text message)).toList)

/-- Read a report; the time it was made has to be there, and is not kept. -/
def decode {γ : Type} [Mark γ] : Decoder γ ComponentHealth :=
  ((fun status message _ => ComponentHealth.mk status message)
    <$> Fields.required "status" HealthStatus.decode
    <*> Fields.nullable "message" Decoder.text
    <*> Fields.required "reported_at" Decoder.int64).decode

end ComponentHealth

/-- Why the service is not ready. -/
inductive Unreadiness where
  | notInitialized
  | component (name : String)
  deriving DecidableEq, Repr

/-- The wording of a reason. -/
def Unreadiness.message : Unreadiness → String
  | notInitialized => "Engine not yet initialized"
  | component name => "Component '" ++ name ++ "' is unhealthy"

/-- The last report of every component, by name. -/
structure HealthRegistry where
  components : Std.ExtTreeMap String ComponentHealth := ∅
  isInitialized : Bool := false
  /-- The time of the last tick that succeeded. -/
  lastTick : Option Int := none

namespace HealthRegistry

/-- Take in a report. -/
def report (registry : HealthRegistry) (name : String) (health : ComponentHealth) :
    HealthRegistry :=
  { registry with components := registry.components.insert name health }

/-- Take in the report that all is well. -/
def register (registry : HealthRegistry) (name : String) : HealthRegistry :=
  registry.report name .healthy

/-- The worst status of any component. -/
def status (registry : HealthRegistry) : HealthStatus :=
  (registry.components.values.map ComponentHealth.status).foldl HealthStatus.worse .healthy

/-- The first reason why the service is not ready, if there is one. A degraded component is no
reason. -/
def unreadiness? (registry : HealthRegistry) : Option Unreadiness :=
  if registry.isInitialized then
    (registry.components.toList.find? fun entry => entry.2.status == .unhealthy).map fun entry =>
      .component entry.1
  else some .notInitialized

/-- The state of health as a record. -/
def healthJson (registry : HealthRegistry) : Json :=
  .record ([("status", .text registry.status.word),
    ("components", .record (registry.components.toList.map fun entry =>
      (entry.1, entry.2.toJson)))] ++
    (registry.lastTick.map fun time => ("last_tick_ms", .int time)).toList)

/-- The readiness as a record. -/
def readinessJson (registry : HealthRegistry) : Json :=
  let reason := registry.unreadiness?
  .record (("ready", .bool reason.isNone) ::
    (reason.map fun reason => ("reason", .text reason.message)).toList)

end HealthRegistry
end FaultCorrelation
