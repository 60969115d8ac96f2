import FaultCorrelation.Service.Basic
import FaultCorrelation.Service.Endpoint

/-! # Serving requests

Requests read what the engine holds and how the service is, send records and delete situations. A
request is looked at in a fixed order: its path, its method, whether its body is declared to be
JSON, the text of the body, the records in it.
-/

namespace FaultCorrelation

namespace Service

/-- The status of a request for which there is no answer but the status. -/
def refuse (status : Nat) : Response := ⟨status, none⟩

/-- The response about one situation. -/
def situationResponse (service : Service) (id : String) : Response :=
  match service.engine.state.ledger.situations[id]? with
  | some situation => ⟨200, some situation.toJson⟩
  | none => ⟨404, some (.record [("error", .text ("situation '" ++ id ++ "' not found"))])⟩

/-- Read a resource. The metrics are a text, which is no JSON body. -/
def read (service : Service) : Endpoint → Response
  | .health =>
    ⟨if service.health.status = .unhealthy then 503 else 200, some service.health.healthJson⟩
  | .readiness =>
    ⟨if service.health.unreadiness?.isSome then 503 else 200, some service.health.readinessJson⟩
  | .metrics => ⟨200, none⟩
  | .stats => ⟨200, some service.engine.stats.toJson⟩
  | .situations =>
    ⟨200, some (.list (service.engine.state.ledger.situations.values.map Situation.toJson))⟩
  | .situation segment =>
    match Target.segmentText? segment with
    | some id => service.situationResponse id
    | none => refuse 400
  | .ingest _ => refuse 405

/-- The callbacks that a request with records asks for, or the status that refuses it. -/
def ingested (kind : Ingestion) (request : Request) : Except Nat (List (Callback Float)) :=
  if request.isJson then
    match kind.callbacks (Document.ofText request.body) with
    | .ok callbacks => .ok callbacks
    | .error .malformed => .error 400
    | .error .unfit => .error 422
  else .error 415

/-- Serve a request for an endpoint that accepts its method. -/
def serveAt (service : Service) (request : Request) : Endpoint → Service × Option Answer
  | .ingest kind =>
    match ingested kind request with
    | .ok callbacks => service.submit .ingestion callbacks
    | .error status => (service, some (.response (refuse status)))
  | endpoint =>
    match request.method, endpoint with
    | .delete, .situation segment =>
      match Target.segmentText? segment with
      | some id => service.submit .deletion [.deleteSituation id]
      | none => (service, some (.response (refuse 400)))
    | .head, _ => (service, some (.response { service.read endpoint with body := none }))
    | _, _ => (service, some (.response (service.read endpoint)))

/-- Serve a request. There is no answer as long as it waits for the barrier. -/
def serve (service : Service) (request : Request) : Service × Option Answer :=
  match Endpoint.ofSegments? request.segments with
  | none => (service, some (.response (refuse 404)))
  | some endpoint =>
    if endpoint.accepts request.method then service.serveAt request endpoint
    else (service, some (.response (refuse 405)))

end Service
end FaultCorrelation
