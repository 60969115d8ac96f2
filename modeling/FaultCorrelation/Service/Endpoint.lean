import FaultCorrelation.Engine.Callback
import FaultCorrelation.Inventory.Json
import FaultCorrelation.Json.Reading
import FaultCorrelation.Service.Request

/-! # Endpoints

What the paths of the service stand for, and how the records that are sent to it become callbacks.
-/

namespace FaultCorrelation

/-- The kinds of records that the service takes in. -/
inductive Ingestion where
  | alarms
  | clearedAlarms
  | inventory
  | removedInventory
  | feedback
  deriving DecidableEq, Repr

/-- The callbacks that a list of records calls for. Alarms and feedback are taken one by one, a list
of inventory objects as a whole. The list is refused if one of its records is unfit. -/
def Ingestion.callbacks {γ : Type} [Mark γ] : Ingestion → Decoder γ (List (Callback Float))
  | alarms, document => (Decoder.list Alarm.decode document).map (List.map .alarm)
  | clearedAlarms, document => (Decoder.list Alarm.decode document).map (List.map .clear)
  | inventory, document =>
    (Decoder.list InventoryObject.decode document).map fun objects => [.addInventory objects]
  | removedInventory, document =>
    (Decoder.list InventoryObject.decode document).map fun objects => [.removeInventory objects]
  | feedback, document => (Decoder.list Feedback.decode document).map (List.map .feedback)

/-- What a path stands for. -/
inductive Endpoint where
  | health
  | readiness
  | metrics
  | stats
  | situations
  /-- One situation; its id is the text of the segment. -/
  | situation (segment : String)
  | ingest (kind : Ingestion)
  deriving DecidableEq, Repr

/-- The endpoint of a path that starts with a slash. -/
def Endpoint.ofSegments? : List String → Option Endpoint
  | ["", "healthz"] => some .health
  | ["", "readyz"] => some .readiness
  | ["", "metrics"] => some .metrics
  | ["", "stats"] => some .stats
  | ["", "situations"] => some .situations
  | ["", "situations", segment] => if segment.isEmpty then none else some (.situation segment)
  | ["", "alarms"] => some (.ingest .alarms)
  | ["", "alarms", "cleared"] => some (.ingest .clearedAlarms)
  | ["", "inventory"] => some (.ingest .inventory)
  | ["", "inventory", "removed"] => some (.ingest .removedInventory)
  | ["", "feedback"] => some (.ingest .feedback)
  | _ => none

/-- Whether an endpoint takes requests of a method. Where a resource can be read, `HEAD` is taken
like `GET`. -/
def Endpoint.accepts : Endpoint → Method → Bool
  | ingest _, .post => true
  | ingest _, _ => false
  | situation _, .delete => true
  | _, .get | _, .head => true
  | _, _ => false

end FaultCorrelation
